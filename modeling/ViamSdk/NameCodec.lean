import ViamSdk.HandlerMap

/-!
# Resource names on the wire

A `ResourceName` message carries the remote and the name of a resource in one
string, which the decoder splits at its last colon.
-/

namespace ViamSdk

theorem longNameToRemoteAndShort_of_not_mem
    {longName : Str} (h : ':' ∉ longName) :
    longNameToRemoteAndShort longName = ([], longName) := by
  unfold longNameToRemoteAndShort
  rw [split_of_not_mem h]
  rfl

theorem longNameToRemoteAndShort_append
    (before : Str) {last : Str} (h : ':' ∉ last) :
    longNameToRemoteAndShort (before ++ ':' :: last) = (before, last) := by
  obtain ⟨first, rest, hsplit⟩ :=
    List.exists_cons_of_ne_nil (split_ne_nil before ':')
  have hbefore : [':'].intercalate (first :: rest) = before := by
    rw [← hsplit, intercalate_split]
  have hparts : ∀ part ∈ first :: rest ++ [last], ':' ∉ part := by
    intro part hpart
    rcases List.mem_append.mp hpart with hpart | hpart
    · rw [← hsplit] at hpart
      exact not_mem_of_mem_split hpart
    · rw [List.mem_singleton.mp hpart]
      exact h
  have hlong := longNameToRemoteAndShort_of_parts hparts (by simp)
  rw [intercalate_concat, hbefore] at hlong
  rw [hlong, List.dropLast_concat, hbefore, List.getLast_append_singleton]

theorem exists_last_colon
    {text : Str} (h : ':' ∈ text) :
    ∃ before last, text = before ++ ':' :: last ∧ ':' ∉ last := by
  obtain ⟨last, before, hsplit, hlast⟩ :=
    List.eq_append_cons_of_mem (List.mem_reverse.mpr h)
  refine ⟨before.reverse, last.reverse, ?_, ?_⟩
  · rw [← List.reverse_reverse text, hsplit]
    simp
  · rwa [List.mem_reverse]

/-- The last segment of a text and what is before its colon; a text without a
colon is its own last segment. -/
def SplitsAtLastColon (text before last : Str) : Prop :=
  ':' ∉ last ∧ (text = before ++ ':' :: last ∨ before = [] ∧ text = last)

theorem splitsAtLastColon_longName
    (longName : Str) :
    SplitsAtLastColon longName (longNameToRemoteAndShort longName).1
      (longNameToRemoteAndShort longName).2 := by
  by_cases hcolon : ':' ∈ longName
  · obtain ⟨before, last, rfl, hlast⟩ := exists_last_colon hcolon
    rw [longNameToRemoteAndShort_append before hlast]
    exact ⟨hlast, .inl rfl⟩
  · rw [longNameToRemoteAndShort_of_not_mem hcolon]
    exact ⟨hcolon, .inr ⟨rfl, rfl⟩⟩

/-- A text starts with a colon only if its first segment is empty. -/
theorem head?_ne_colon_of_headD_split
    {text : Str} (h : (split text ':').headD [] ≠ []) :
    text.head? ≠ some ':' := by
  obtain ⟨first, rest, hsplit⟩ :=
    List.exists_cons_of_ne_nil (split_ne_nil text ':')
  rw [hsplit, List.headD_cons] at h
  have hfirst : ':' ∉ first := by
    apply not_mem_of_mem_split (s := text)
    rw [hsplit]
    exact List.mem_cons_self
  rw [← intercalate_split text ':', hsplit,
    ResourceConfig.head?_intercalate_colon h]
  intro hhead
  exact hfirst (List.mem_of_mem_head? hhead)

def StartsWithOnlyColon (text : Str) : Prop :=
  ∃ last, text = ':' :: last ∧ ':' ∉ last

namespace Name

/-- `operator==`, which compares what is printed. -/
def equal (lhs rhs : Name) : Bool := lhs.toString == rhs.toString

theorem name_toProto (n : Name) : n.toProto.name = n.shortName := by
  unfold toProto shortName
  by_cases hremote : n.remoteName = [] <;> simp [hremote]

theorem api_toProto (n : Name) : n.toProto.api = n.api := rfl

/-- Only a remote name that is a lone colon is left out by the printer. -/
theorem toString_eq_shortName
    {n : Name} (h : n.remoteName ≠ [':']) :
    n.toString = n.api.toString ++ '/' :: n.shortName := by
  unfold toString shortName
  by_cases hremote : n.remoteName = [] <;> simp [hremote, h]

theorem remoteName_ne_colon
    {n : Name} (h : n.shortName.head? ≠ some ':') :
    n.remoteName ≠ [':'] := by
  intro hremote
  apply h
  unfold shortName
  rw [hremote]
  rfl

theorem shortName_fromProto_iff
    (proto : ResourceName) :
    (fromProto proto).shortName = proto.name ↔
      ¬ StartsWithOnlyColon proto.name := by
  by_cases hcolon : ':' ∈ proto.name
  · obtain ⟨before, last, hname, hlast⟩ := exists_last_colon hcolon
    have hlong := longNameToRemoteAndShort_append before hlast
    unfold fromProto shortName
    rw [hname, hlong]
    cases before with
    | nil =>
        have hstarts : StartsWithOnlyColon (':' :: last) :=
          ⟨last, rfl, hlast⟩
        simp [hstarts]
    | cons c before =>
        have hnot : ¬ StartsWithOnlyColon (c :: (before ++ ':' :: last)) := by
          rintro ⟨rest, hrest, hnone⟩
          apply hnone
          rw [← (List.cons.inj hrest).2]
          simp
        simp [hnot]
  · have hnot : ¬ StartsWithOnlyColon proto.name := by
      rintro ⟨last, hlast, _⟩
      apply hcolon
      rw [hlast]
      exact List.mem_cons_self
    unfold fromProto shortName
    rw [longNameToRemoteAndShort_of_not_mem hcolon]
    simp [hnot]

theorem fromProto_toProto_of_not_mem
    {n : Name} (h : ':' ∉ n.name) :
    fromProto n.toProto = n := by
  unfold fromProto
  rw [name_toProto, api_toProto]
  unfold shortName
  by_cases hremote : n.remoteName = []
  · rw [if_neg (not_not.mpr hremote),
      longNameToRemoteAndShort_of_not_mem h, ← hremote]
  · rw [if_pos hremote, longNameToRemoteAndShort_append n.remoteName h]

def firstSegment (n : Name) : Str := (split n.shortName ':').headD []

/-- What is printed depends on the api and the short name alone, and both
survive. -/
theorem equal_fromProto_toProto
    {n : Name} (h : n.firstSegment ≠ []) :
    equal (fromProto n.toProto) n = true := by
  have hhead := head?_ne_colon_of_headD_split h
  have hshort : (fromProto n.toProto).shortName = n.shortName := by
    rw [← name_toProto n]
    rw [shortName_fromProto_iff, name_toProto]
    rintro ⟨last, hlast, _⟩
    rw [hlast] at hhead
    exact hhead rfl
  have hapi : (fromProto n.toProto).api = n.api := rfl
  unfold equal
  rw [beq_iff_eq, toString_eq_shortName (remoteName_ne_colon hhead),
    toString_eq_shortName, hshort, hapi]
  apply remoteName_ne_colon
  rw [hshort]
  exact hhead

/-- The codec of names: for names without a colon of their own, for received
messages, and up to equality for names with colons. -/
theorem name_codec
    (n : Name) (proto : ResourceName) :
    (':' ∉ n.name → fromProto n.toProto = n) ∧
    ((fromProto proto).api = proto.api ∧
      SplitsAtLastColon proto.name (fromProto proto).remoteName
        (fromProto proto).name ∧
      ((fromProto proto).shortName = proto.name ↔
        ¬ StartsWithOnlyColon proto.name)) ∧
    (n.firstSegment ≠ [] → equal (fromProto n.toProto) n = true) :=
  ⟨fromProto_toProto_of_not_mem,
    ⟨rfl, splitsAtLastColon_longName proto.name,
      shortName_fromProto_iff proto⟩,
    equal_fromProto_toProto⟩

end Name

end ViamSdk

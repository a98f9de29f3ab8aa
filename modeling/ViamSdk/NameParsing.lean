import Mathlib.Data.List.TakeWhile
import ViamSdk.ResourceApi

/-!
# Printing and parsing resource names

`Name::from_string` accepts a string by `NAME_REGEX` and then reads the API
before the first slash and at most two of the colon-separated pieces after
it.  The regular expression allows far more: no slash at all, any number of
remote hops, and an arbitrary tail.  This file computes what the parser does
on every string, and from that exactly where it agrees with the printer.
-/

namespace ViamSdk

/-! ## Segments and the two regular expressions -/

theorem IsSegment.not_mem_of_not_wordOrDash
    {s : Str} (hs : IsSegment s) {c : Char} (hc : isWordOrDash c = false) :
    c ∉ s := by
  intro hmem
  have htrue := hs.2 c hmem
  rw [hc] at htrue
  contradiction

theorem IsSegment.colon_not_mem {s : Str} (hs : IsSegment s) : ':' ∉ s :=
  hs.not_mem_of_not_wordOrDash (by decide)

theorem IsSegment.slash_not_mem {s : Str} (hs : IsSegment s) : '/' ∉ s :=
  hs.not_mem_of_not_wordOrDash (by decide)

theorem isLineTerminator_of_isWordOrDash
    {c : Char} (hc : isWordOrDash c = true) :
    isLineTerminator c = false := by
  have hnewline : c ≠ '\n' := by
    intro heq
    subst c
    exact absurd hc (by decide)
  have hreturn : c ≠ '\r' := by
    intro heq
    subst c
    exact absurd hc (by decide)
  simp [isLineTerminator, hnewline, hreturn]

/-- A string without line breaks, which `.+` matches to its end. -/
def OneLine (s : Str) : Prop := ∀ c ∈ s, isLineTerminator c = false

instance (s : Str) : Decidable (OneLine s) := List.decidableBAll _ s

theorem IsSegment.oneLine {s : Str} (hs : IsSegment s) : OneLine s :=
  fun c hc => isLineTerminator_of_isWordOrDash (hs.2 c hc)

theorem OneLine.append
    {s t : Str} (hs : OneLine s) (ht : OneLine t) :
    OneLine (s ++ t) := by
  intro c hc
  rcases List.mem_append.mp hc with hc | hc
  · exact hs c hc
  · exact ht c hc

theorem oneLine_cons_of_oneLine
    {c : Char} {s : Str} (hc : isLineTerminator c = false) (hs : OneLine s) :
    OneLine (c :: s) := by
  intro d hd
  rcases List.mem_cons.mp hd with rfl | hd
  · exact hc
  · exact hs d hd

theorem mem_lang_segmentRegex (s : Str) :
    s ∈ segmentRegex.lang ↔ IsSegment s :=
  Regex.mem_lang_oneOrMore_oneOf isWordOrDash s

theorem modelRegex_rmatch_iff (s : Str) :
    modelRegex.rmatch s = true ↔
      ∃ a b c, IsSegment a ∧ IsSegment b ∧ IsSegment c ∧
        s = a ++ ':' :: (b ++ ':' :: c) := by
  rw [Regex.rmatch_iff]
  unfold modelRegex
  simp only [Regex.mem_lang_cat, Regex.mem_lang_lit, mem_lang_segmentRegex]
  constructor
  · intro hform
    rcases hform with ⟨a, ha, _, ⟨_, rfl, _, htail, rfl⟩, rfl⟩
    rcases htail with ⟨b, hb, _, ⟨_, rfl, c, hc, rfl⟩, rfl⟩
    exact ⟨a, b, c, ha, hb, hc, by simp⟩
  · intro hform
    rcases hform with ⟨a, b, c, ha, hb, hc, rfl⟩
    exact ⟨a, ha, _, ⟨_, rfl, _, ⟨b, hb, _, ⟨_, rfl, c, hc, rfl⟩, rfl⟩, rfl⟩,
      by simp⟩

theorem slash_not_mem_of_modelRegex
    {s : Str} (hs : modelRegex.rmatch s = true) :
    '/' ∉ s := by
  obtain ⟨a, b, c, ha, hb, hc, rfl⟩ := (modelRegex_rmatch_iff s).mp hs
  simp [ha.slash_not_mem, hb.slash_not_mem, hc.slash_not_mem]

theorem oneLine_of_mem_star_segment_colon
    {s : Str}
    (hs : s ∈ (Regex.star (Regex.cat segmentRegex (Regex.lit ':'))).lang) :
    OneLine s := by
  obtain ⟨factors, rfl, hfactors⟩ := Language.mem_kstar.mp hs
  intro c hc
  obtain ⟨factor, hfactor, hcfactor⟩ := List.mem_flatten.mp hc
  have hmem := (Regex.mem_lang_cat _ _ factor).mp (hfactors factor hfactor)
  obtain ⟨u, hu, v, hv, rfl⟩ := hmem
  have hu' := (mem_lang_segmentRegex u).mp hu
  have hv' := (Regex.mem_lang_lit ':' v).mp hv
  subst v
  exact (hu'.oneLine.append (by decide)) c hcfactor

theorem oneLine_of_mem_remotePrefixRegex
    {s : Str} (hs : s ∈ remotePrefixRegex.lang) :
    OneLine s := by
  rcases (Regex.mem_lang_opt _ s).mp hs with rfl | hs
  · intro c hc
    cases hc
  · obtain ⟨u, hu, v, hv, rfl⟩ := (Regex.mem_lang_cat _ _ s).mp hs
    obtain ⟨w, hw, x, hx, rfl⟩ := (Regex.mem_lang_cat _ _ u).mp hu
    have hw' := (mem_lang_segmentRegex w).mp hw
    have hx' := (Regex.mem_lang_lit ':' x).mp hx
    subst x
    exact (hw'.oneLine.append (by decide)).append
      (oneLine_of_mem_star_segment_colon hv)

/-- The three optional parts of `NAME_REGEX` together match every string
without a line break, so acceptance only asks for an API in front. -/
theorem nameRegex_rmatch_iff (s : Str) :
    nameRegex.rmatch s = true ↔
      ∃ a t, modelRegex.rmatch a = true ∧ OneLine t ∧ a ++ t = s := by
  rw [Regex.rmatch_iff]
  unfold nameRegex
  rw [Regex.mem_lang_cat]
  constructor
  · intro hform
    rcases hform with ⟨a, ha, t, ht, rfl⟩
    refine ⟨a, t, (Regex.rmatch_iff _ a).mpr ha, ?_, rfl⟩
    obtain ⟨slash, hslash, u, hu, rfl⟩ := (Regex.mem_lang_cat _ _ t).mp ht
    obtain ⟨remote, hremote, tail, htail, rfl⟩ :=
      (Regex.mem_lang_cat _ _ u).mp hu
    have hslashLine : OneLine slash := by
      rcases (Regex.mem_lang_opt _ slash).mp hslash with rfl | hlit
      · decide
      · have heq := (Regex.mem_lang_lit '/' slash).mp hlit
        subst slash
        decide
    have htailLine : OneLine tail := by
      rcases (Regex.mem_lang_opt _ tail).mp htail with rfl | hany
      · decide
      · have hall := ((Regex.mem_lang_oneOrMore_oneOf _ tail).mp hany).2
        intro c hc
        simpa using hall c hc
    exact hslashLine.append
      ((oneLine_of_mem_remotePrefixRegex hremote).append htailLine)
  · intro hform
    rcases hform with ⟨a, t, ha, ht, rfl⟩
    refine ⟨a, (Regex.rmatch_iff _ a).mp ha, t, ?_, rfl⟩
    rw [Regex.mem_lang_cat]
    refine ⟨[], (Regex.mem_lang_opt _ _).mpr (Or.inl rfl), t, ?_, rfl⟩
    rw [Regex.mem_lang_cat]
    refine ⟨[], (Regex.mem_lang_opt _ _).mpr (Or.inl rfl), t, ?_, rfl⟩
    rw [Regex.mem_lang_opt]
    by_cases hnil : t = []
    · exact Or.inl hnil
    · right
      rw [Regex.mem_lang_oneOrMore_oneOf]
      exact ⟨hnil, fun c hc => by simpa using ht c hc⟩

/-! ## Parsing the API -/

theorem modelRegex_segments
    {a b c : Str} (ha : IsSegment a) (hb : IsSegment b) (hc : IsSegment c) :
    modelRegex.rmatch (a ++ ':' :: (b ++ ':' :: c)) = true :=
  (modelRegex_rmatch_iff _).mpr ⟨a, b, c, ha, hb, hc, rfl⟩

theorem split_segments
    {a b c : Str} (ha : IsSegment a) (hb : IsSegment b) (hc : IsSegment c) :
    split (a ++ ':' :: (b ++ ':' :: c)) ':' = [a, b, c] := by
  rw [split_append_cons ha.colon_not_mem, split_append_cons hb.colon_not_mem,
    split_of_not_mem hc.colon_not_mem]

theorem API.fromString_parts
    {a b c : Str} (ha : IsSegment a) (hb : IsSegment b) (hc : IsSegment c) :
    API.fromString (a ++ ':' :: (b ++ ':' :: c)) = .ok ⟨a, b, c⟩ := by
  unfold API.fromString
  rw [if_pos (modelRegex_segments ha hb hc), split_segments ha hb hc]
  rfl

theorem API.fromString_toString
    {api : API} (hapi : api.WellFormed) :
    API.fromString api.toString = .ok api :=
  API.fromString_parts hapi.1 hapi.2.1 hapi.2.2

theorem API.fromString_of_match
    {s : Str} (hs : modelRegex.rmatch s = true) :
    ∃ api, API.fromString s = .ok api ∧ api.toString = s := by
  obtain ⟨a, b, c, ha, hb, hc, rfl⟩ := (modelRegex_rmatch_iff s).mp hs
  exact ⟨⟨a, b, c⟩, API.fromString_parts ha hb hc, rfl⟩

theorem API.fromString_of_not_match
    {s : Str} (hs : modelRegex.rmatch s = false) :
    ∃ message, API.fromString s = .error (.thrown (.sdk .general message)) := by
  unfold API.fromString
  rw [hs]
  exact ⟨_, rfl⟩

theorem API.rmatch_toString
    {api : API} (hapi : api.WellFormed) :
    modelRegex.rmatch api.toString = true :=
  (modelRegex_rmatch_iff _).mpr
    ⟨_, _, _, hapi.1, hapi.2.1, hapi.2.2, rfl⟩

/-! ## Parsing the model -/

/-- All three parts match `[\w-]+`. -/
def Model.WellFormed (m : Model) : Prop :=
  IsSegment m.modelFamily.namespace_ ∧ IsSegment m.modelFamily.family ∧
    IsSegment m.modelName

instance (m : Model) : Decidable m.WellFormed :=
  inferInstanceAs (Decidable (_ ∧ _ ∧ _))

theorem Model.fromStr_toString
    {m : Model} (hm : m.WellFormed) : Model.fromStr m.toString = .ok m := by
  rcases m with ⟨⟨a, b⟩, c⟩
  obtain ⟨ha, hb, hc⟩ := hm
  simp only at ha hb hc
  have htext : Model.toString ⟨⟨a, b⟩, c⟩ = a ++ ':' :: (b ++ ':' :: c) := by
    simp [Model.toString, ModelFamily.toString, ha.1]
  unfold Model.fromStr
  rw [htext, if_pos (modelRegex_segments ha hb hc), split_segments ha hb hc]
  rfl

/-! ## Parsing the name -/

namespace Name

/-- The printed form after the slash. -/
def tailText (n : Name) : Str :=
  if n.remoteName = [] ∨ n.remoteName = [':'] then n.name
  else n.remoteName ++ ':' :: n.name

theorem toString_eq (n : Name) :
    n.toString = n.api.toString ++ '/' :: n.tailText := by
  unfold toString tailText
  split
  next => rfl
  next => rfl

/-- What the parser builds from the text between the first two slashes: of
its colon-separated pieces it reads only the first two. -/
def ofTail (api : API) (tail : Str) : Name :=
  match split tail ':' with
  | [] => ⟨api, [], []⟩
  | [resourceName] => ⟨api, [], resourceName⟩
  | remote :: resourceName :: _ => ⟨api, remote, resourceName⟩

theorem ofTail_of_no_colon
    (api : API) {tail : Str} (h : ':' ∉ tail) :
    ofTail api tail = ⟨api, [], tail⟩ := by
  unfold ofTail
  rw [split_of_not_mem h]

theorem ofTail_of_one_colon
    (api : API) {p q : Str} (hp : ':' ∉ p) (hq : ':' ∉ q) :
    ofTail api (p ++ ':' :: q) = ⟨api, p, q⟩ := by
  unfold ofTail
  rw [split_append_cons hp, split_of_not_mem hq]

theorem ofTail_of_two_colons
    (api : API) {p q : Str} (hp : ':' ∉ p) (hq : ':' ∉ q) (r : Str) :
    ofTail api (p ++ ':' :: (q ++ ':' :: r)) = ⟨api, p, q⟩ := by
  unfold ofTail
  rw [split_append_cons hp, split_append_cons hq]

theorem ofTail_api (api : API) (tail : Str) : (ofTail api tail).api = api := by
  unfold ofTail
  split
  next => rfl
  next => rfl
  next => rfl

theorem nameRegex_tail
    {a rest : Str} (hmatch : nameRegex.rmatch (a ++ '/' :: rest) = true) :
    OneLine rest := by
  obtain ⟨b, t, hb, ht, heq⟩ := (nameRegex_rmatch_iff _).mp hmatch
  have hslash := slash_not_mem_of_modelRegex hb
  obtain ⟨u, htu⟩ : ∃ u, t = u ++ '/' :: rest := by
    rcases List.append_eq_append_iff.mp heq with ⟨u, -, ht'⟩ | ⟨u, hb', ht'⟩
    · exact ⟨u, ht'⟩
    · cases u with
      | nil => exact ⟨[], ht'.symm⟩
      | cons c u =>
          obtain ⟨hc, -⟩ := List.cons_eq_cons.mp ht'
          subst c
          exact absurd (by rw [hb']; simp) hslash
  intro c hc
  exact ht c (by rw [htu]; simp [hc])

theorem fromString_of_no_match
    {s : Str} (hs : nameRegex.rmatch s = false) :
    ∃ message, fromString s = .error (.thrown (.sdk .general message)) := by
  unfold fromString
  rw [hs]
  exact ⟨_, rfl⟩

/-- An API in front of a one-line tail is parsed; only the text up to the
next slash is looked at. -/
theorem fromString_of_api
    {a rest x : Str} {more : List Str} {api : API}
    (ha : modelRegex.rmatch a = true) (hapi : API.fromString a = .ok api)
    (hrest : OneLine rest) (hx : split rest '/' = x :: more) :
    fromString (a ++ '/' :: rest) = .ok (ofTail api x) := by
  have hmatch : nameRegex.rmatch (a ++ '/' :: rest) = true :=
    (nameRegex_rmatch_iff _).mpr
      ⟨a, '/' :: rest, ha, oneLine_cons_of_oneLine (by decide) hrest, rfl⟩
  have hsplit : split (a ++ '/' :: rest) '/' = a :: x :: more := by
    rw [split_append_cons (slash_not_mem_of_modelRegex ha), hx]
  unfold fromString ofTail
  rw [hmatch, hsplit]
  simp only [Bool.not_true, Bool.false_eq_true, if_false, vectorAt_zero,
    bind, Except.bind, hapi]
  cases hcolon : split x ':' with
  | nil => exact absurd hcolon (split_ne_nil x ':')
  | cons p parts =>
      cases parts with
      | nil =>
          simp [vectorAt, pure, Except.pure, hcolon]
      | cons q parts =>
          simp [vectorAt, pure, Except.pure, hcolon]

theorem fromString_of_not_api
    {s a : Str} {more : List Str} (hsplit : split s '/' = a :: more)
    (ha : modelRegex.rmatch a = false) :
    ∃ message, fromString s = .error (.thrown (.sdk .general message)) := by
  cases hmatch : nameRegex.rmatch s with
  | false => exact fromString_of_no_match hmatch
  | true =>
      obtain ⟨message, hmessage⟩ := API.fromString_of_not_match ha
      refine ⟨message, ?_⟩
      unfold fromString
      rw [hmatch, hsplit]
      simp [bind, Except.bind, hmessage]

/-- An API alone passes the regular expression, and then the second piece of
the split does not exist. -/
theorem fromString_of_api_alone
    {s : Str} (hs : modelRegex.rmatch s = true) :
    ∃ message, fromString s = .error (.thrown (.outOfRange message)) := by
  have hmatch : nameRegex.rmatch s = true :=
    (nameRegex_rmatch_iff s).mpr ⟨s, [], hs, by decide, by simp⟩
  have hsplit : split s '/' = [s] :=
    split_of_not_mem (slash_not_mem_of_modelRegex hs)
  obtain ⟨api, hapi, -⟩ := API.fromString_of_match hs
  obtain ⟨message, hmessage⟩ :=
    vectorAt_of_length_le (v := [s]) (n := 1) (by simp)
  refine ⟨message, ?_⟩
  unfold fromString
  rw [hmatch, hsplit]
  simp [bind, Except.bind, hapi, hmessage]

/-! ## Round trip through the printer -/

/-- The characters of remote hops joined by colons. -/
def CleanTail (s : Str) : Prop := ∀ c ∈ s, isWordOrDash c = true ∨ c = ':'

theorem CleanTail.oneLine {s : Str} (hs : CleanTail s) : OneLine s := by
  intro c hc
  rcases hs c hc with hword | rfl
  · exact isLineTerminator_of_isWordOrDash hword
  · decide

theorem CleanTail.slash_not_mem {s : Str} (hs : CleanTail s) : '/' ∉ s := by
  intro hmem
  exact absurd (hs _ hmem) (by decide)

theorem cleanTail_of_isSegment {s : Str} (hs : IsSegment s) : CleanTail s :=
  fun c hc => Or.inl (hs.2 c hc)

theorem CleanTail.append_colon
    {s t : Str} (hs : CleanTail s) (ht : CleanTail t) :
    CleanTail (s ++ ':' :: t) := by
  intro c hc
  rcases List.mem_append.mp hc with hc | hc
  · exact hs c hc
  · rcases List.mem_cons.mp hc with rfl | hc
    · exact Or.inr rfl
    · exact ht c hc

theorem cleanTail_intercalate
    {hops : List Str} (hhops : ∀ hop ∈ hops, IsSegment hop) :
    CleanTail ([':'].intercalate hops) := by
  induction hops with
  | nil =>
      intro c hc
      cases hc
  | cons hop hops ih =>
      have hhop := cleanTail_of_isSegment (hhops hop List.mem_cons_self)
      cases hops with
      | nil => simpa using hhop
      | cons next rest =>
          have hrest := ih (fun h hmem => hhops h (List.mem_cons_of_mem _ hmem))
          rw [List.intercalate_cons_cons, List.append_assoc,
            List.singleton_append]
          exact hhop.append_colon hrest

theorem tailText_of_hops
    (api : API) {hop : Str} {hops : List Str} (name : Str)
    (hhop : IsSegment hop) :
    tailText ⟨api, [':'].intercalate (hop :: hops), name⟩ =
      [':'].intercalate (hop :: hops) ++ ':' :: name := by
  obtain ⟨rest, hrest⟩ :
      ∃ rest, [':'].intercalate (hop :: hops) = hop ++ rest := by
    cases hops with
    | nil => exact ⟨[], by simp⟩
    | cons next more =>
        exact ⟨[':'] ++ [':'].intercalate (next :: more), by
          rw [List.intercalate_cons_cons, List.append_assoc]⟩
  have hne : ¬([':'].intercalate (hop :: hops) = [] ∨
      [':'].intercalate (hop :: hops) = [':']) := by
    rw [hrest]
    intro hform
    rcases hform with hnil | hcolon
    · exact hhop.1 (List.append_eq_nil_iff.mp hnil).1
    · cases hop with
      | nil => exact hhop.1 rfl
      | cons c hop =>
          have hc : c = ':' := by
            simpa using congrArg List.head? hcolon
          exact hhop.colon_not_mem (by simp [hc])
  unfold tailText
  exact if_neg hne

/-- A name over well-formed parts is read back by `from_string` exactly when
it has at most one remote hop: with more, the parser takes the second hop
for the resource name. -/
theorem fromString_toString_iff
    (api : API) (hops : List Str) (name : Str) (hapi : api.WellFormed)
    (hhops : ∀ hop ∈ hops, IsSegment hop) (hname : IsSegment name) :
    fromString (toString ⟨api, [':'].intercalate hops, name⟩) =
        .ok ⟨api, [':'].intercalate hops, name⟩ ↔
      hops.length ≤ 1 := by
  have hmatch := API.rmatch_toString hapi
  have hparse := API.fromString_toString hapi
  have hnameTail := cleanTail_of_isSegment hname
  rw [toString_eq]
  cases hops with
  | nil =>
      have htext : tailText ⟨api, [':'].intercalate [], name⟩ = name := rfl
      rw [htext, fromString_of_api hmatch hparse hname.oneLine
        (split_of_not_mem hname.slash_not_mem),
        ofTail_of_no_colon api hname.colon_not_mem]
      simp
  | cons hop hops =>
      have hhop := hhops hop List.mem_cons_self
      have htail : CleanTail
          ([':'].intercalate (hop :: hops) ++ ':' :: name) :=
        (cleanTail_intercalate hhops).append_colon hnameTail
      rw [tailText_of_hops api name hhop,
        fromString_of_api hmatch hparse htail.oneLine
          (split_of_not_mem htail.slash_not_mem)]
      cases hops with
      | nil =>
          rw [List.intercalate_singleton,
            ofTail_of_one_colon api hhop.colon_not_mem hname.colon_not_mem]
          simp
      | cons next rest =>
          have hnext := hhops next (List.mem_cons_of_mem _ List.mem_cons_self)
          obtain ⟨more, hmore⟩ : ∃ more,
              [':'].intercalate (next :: rest) ++ ':' :: name =
                next ++ ':' :: more := by
            cases rest with
            | nil => exact ⟨name, by simp⟩
            | cons third rest =>
                exact ⟨[':'].intercalate (third :: rest) ++ ':' :: name, by
                  rw [List.intercalate_cons_cons]
                  simp⟩
          have hjoin : [':'].intercalate (hop :: next :: rest) ++ ':' :: name =
              hop ++ ':' :: (next ++ ':' :: more) := by
            rw [List.intercalate_cons_cons, ← hmore]
            simp
          rw [hjoin, ofTail_of_two_colons api hhop.colon_not_mem
            hnext.colon_not_mem]
          simp

theorem fromString_toString_one_hop :
    fromString (toString ⟨⟨"ns".toList, "service".toList, "st".toList⟩,
        [':'].intercalate ["remote".toList], "name".toList⟩) =
      .ok ⟨⟨"ns".toList, "service".toList, "st".toList⟩,
        [':'].intercalate ["remote".toList], "name".toList⟩ :=
  (fromString_toString_iff ⟨"ns".toList, "service".toList, "st".toList⟩
    ["remote".toList] "name".toList (by decide) (by decide) (by decide)).mpr
    (by decide)

theorem fromString_toString_two_hops :
    ¬ ∀ (api : API) (hops : List Str) (name : Str), api.WellFormed →
      (∀ hop ∈ hops, IsSegment hop) → IsSegment name →
      fromString (toString ⟨api, [':'].intercalate hops, name⟩) =
        .ok ⟨api, [':'].intercalate hops, name⟩ := by
  intro hall
  have hparse := hall ⟨"ns".toList, "service".toList, "st".toList⟩
    ["remote1".toList, "remote2".toList] "name".toList
    (by decide) (by decide) (by decide)
  exact absurd hparse (by decide)

/-! ## What acceptance loses -/

/-- The parser throws the SDK's own exception, or returns a name that prints
as the string it was given. -/
def AcceptsLosslessly (s : Str) : Prop :=
  (∃ condition message,
      fromString s = .error (.thrown (.sdk condition message))) ∨
    ∃ n, fromString s = .ok n ∧ n.toString = s

/-- No further slash, at most one colon, and no empty remote. -/
def SimpleTail (rest : Str) : Prop :=
  '/' ∉ rest ∧ rest.count ':' ≤ 1 ∧ rest.head? ≠ some ':'

/-- Behind a valid API there is a slash, and what follows it is refused for
a line break or has the simple shape. -/
def SimpleOrRefused (s : Str) : Prop :=
  modelRegex.rmatch (s.takeWhile (· ≠ '/')) = true →
    ∃ rest, s = s.takeWhile (· ≠ '/') ++ '/' :: rest ∧
      (¬ OneLine rest ∨ SimpleTail rest)

theorem takeWhile_slash_of_not_mem
    {s : Str} (h : '/' ∉ s) :
    s.takeWhile (· ≠ '/') = s := by
  have hall : ∀ c ∈ s, decide (c ≠ '/') = true := by
    intro c hc
    have hne : c ≠ '/' := fun heq => h (heq ▸ hc)
    simpa using hne
  exact List.takeWhile_eq_self_iff.mpr hall

theorem takeWhile_slash_append
    {a : Str} (h : '/' ∉ a) (rest : Str) :
    (a ++ '/' :: rest).takeWhile (· ≠ '/') = a := by
  rw [List.takeWhile_append_of_pos]
  · simp
  · intro c hc
    have hne : c ≠ '/' := fun heq => h (heq ▸ hc)
    simpa using hne

theorem tailText_ofTail_length
    (api : API) (x : Str) :
    (ofTail api x).tailText.length ≤ x.length := by
  by_cases hx : ':' ∈ x
  · obtain ⟨p, q, rfl, hp⟩ := List.eq_append_cons_of_mem hx
    by_cases hmore : ':' ∈ q
    · obtain ⟨q, r, rfl, hq⟩ := List.eq_append_cons_of_mem hmore
      rw [ofTail_of_two_colons api hp hq]
      unfold tailText
      split
      next =>
        simp only [List.length_append, List.length_cons]
        omega
      next =>
        simp only [List.length_append, List.length_cons]
        omega
    · rw [ofTail_of_one_colon api hp hmore]
      unfold tailText
      split
      next =>
        simp only [List.length_append, List.length_cons]
        omega
      next => exact le_rfl
  · rw [ofTail_of_no_colon api hx]
    simp [tailText]

theorem tailText_ofTail_iff
    (api : API) (x : Str) :
    (ofTail api x).tailText = x ↔ x.count ':' ≤ 1 ∧ x.head? ≠ some ':' := by
  by_cases hx : ':' ∈ x
  · obtain ⟨p, q, rfl, hp⟩ := List.eq_append_cons_of_mem hx
    by_cases hmore : ':' ∈ q
    · obtain ⟨q, r, rfl, hq⟩ := List.eq_append_cons_of_mem hmore
      rw [ofTail_of_two_colons api hp hq]
      have hcount : ¬ (p ++ ':' :: (q ++ ':' :: r)).count ':' ≤ 1 := by
        simp only [List.count_append, List.count_cons_self]
        omega
      have hlong : tailText ⟨api, p, q⟩ ≠ p ++ ':' :: (q ++ ':' :: r) := by
        intro heq
        have hlen := congrArg List.length heq
        unfold tailText at hlen
        split at hlen
        next =>
          simp only [List.length_append, List.length_cons] at hlen
          omega
        next =>
          simp only [List.length_append, List.length_cons] at hlen
          omega
      simp only [hlong, hcount, false_and]
    · rw [ofTail_of_one_colon api hp hmore]
      have hcount : (p ++ ':' :: q).count ':' ≤ 1 := by
        rw [List.count_append, List.count_cons_self, List.count_eq_zero.mpr hp,
          List.count_eq_zero.mpr hmore]
      cases p with
      | nil =>
          have hshort : tailText ⟨api, [], q⟩ ≠ ':' :: q := by
            intro heq
            have hlen := congrArg List.length heq
            simp [tailText] at hlen
          simpa using hshort
      | cons c p =>
          have hc : c ≠ ':' := fun heq => hp (by simp [heq])
          have hprint : tailText ⟨api, c :: p, q⟩ = c :: p ++ ':' :: q :=
            if_neg (by simp [hc])
          have hhead : (c :: p ++ ':' :: q).head? ≠ some ':' := by
            simpa using hc
          simp only [hprint, hcount, hhead, true_and, not_false_eq_true, ne_eq]
  · rw [ofTail_of_no_colon api hx]
    have hcount : x.count ':' ≤ 1 := by
      rw [List.count_eq_zero.mpr hx]
      omega
    have hhead : x.head? ≠ some ':' := fun heq =>
      hx (List.mem_of_mem_head? heq)
    simp [tailText, hcount, hhead]

theorem not_acceptsLosslessly_of_outOfRange
    {s message : Str}
    (hs : fromString s = .error (.thrown (.outOfRange message))) :
    ¬ AcceptsLosslessly s := by
  unfold AcceptsLosslessly
  rw [hs]
  intro hform
  rcases hform with ⟨condition, message', heq⟩ | ⟨n, heq, -⟩
  · cases heq
  · cases heq

/-- Behind an API the parser keeps a one-line tail whole exactly when the tail
is simple: what comes after a further slash is never looked at. -/
theorem acceptsLosslessly_tail_iff
    {a rest : Str} (ha : modelRegex.rmatch a = true) (hline : OneLine rest) :
    AcceptsLosslessly (a ++ '/' :: rest) ↔ SimpleTail rest := by
  obtain ⟨api, hapi, hprint⟩ := API.fromString_of_match ha
  obtain ⟨x, more, hx⟩ : ∃ x more, split rest '/' = x :: more :=
    List.exists_cons_of_ne_nil (split_ne_nil rest '/')
  have hparse := fromString_of_api ha hapi hline hx
  have hlossless : AcceptsLosslessly (a ++ '/' :: rest) ↔
      (ofTail api x).tailText = rest := by
    unfold AcceptsLosslessly
    rw [hparse]
    simp [toString_eq, ofTail_api, hprint]
  rw [hlossless]
  by_cases hmore : '/' ∈ rest
  · obtain ⟨y, z, rfl, hy⟩ := List.eq_append_cons_of_mem hmore
    rw [split_append_cons hy] at hx
    obtain ⟨rfl, -⟩ := List.cons_eq_cons.mp hx
    have hshort : (ofTail api y).tailText ≠ y ++ '/' :: z := by
      intro heq
      have hlen := tailText_ofTail_length api y
      rw [heq] at hlen
      simp only [List.length_append, List.length_cons] at hlen
      omega
    simp [hshort, SimpleTail]
  · rw [split_of_not_mem hmore] at hx
    obtain ⟨rfl, -⟩ := List.cons_eq_cons.mp hx
    rw [tailText_ofTail_iff]
    simp [SimpleTail, hmore]

/-- On every string, `from_string` either throws the SDK's exception or is
lossless exactly when the string has the simple shape or is refused. -/
theorem acceptsLosslessly_iff (s : Str) :
    AcceptsLosslessly s ↔ SimpleOrRefused s := by
  unfold SimpleOrRefused
  by_cases hslash : '/' ∈ s
  · obtain ⟨a, rest, rfl, ha⟩ := List.eq_append_cons_of_mem hslash
    rw [takeWhile_slash_append ha]
    cases hmatch : modelRegex.rmatch a with
    | false =>
        obtain ⟨message, hmessage⟩ :=
          fromString_of_not_api (split_append_cons ha rest) hmatch
        simp only [Bool.false_eq_true, false_implies, iff_true]
        exact Or.inl ⟨_, message, hmessage⟩
    | true =>
        have hshape : (∃ rest', a ++ '/' :: rest = a ++ '/' :: rest' ∧
            (¬ OneLine rest' ∨ SimpleTail rest')) ↔
            ¬ OneLine rest ∨ SimpleTail rest := by
          simp
        rw [hshape]
        by_cases hline : OneLine rest
        · rw [acceptsLosslessly_tail_iff hmatch hline]
          simp [hline]
        · have hrefused : nameRegex.rmatch (a ++ '/' :: rest) = false := by
            cases hname : nameRegex.rmatch (a ++ '/' :: rest) with
            | false => rfl
            | true => exact absurd (nameRegex_tail hname) hline
          obtain ⟨message, hmessage⟩ := fromString_of_no_match hrefused
          have haccepts : AcceptsLosslessly (a ++ '/' :: rest) :=
            Or.inl ⟨_, message, hmessage⟩
          simp only [haccepts, hline, not_false_eq_true, true_or, imp_self]
  · rw [takeWhile_slash_of_not_mem hslash]
    cases hmatch : modelRegex.rmatch s with
    | false =>
        obtain ⟨message, hmessage⟩ :=
          fromString_of_not_api (split_of_not_mem hslash) hmatch
        simp only [Bool.false_eq_true, false_implies, iff_true]
        exact Or.inl ⟨_, message, hmessage⟩
    | true =>
        obtain ⟨message, hmessage⟩ := fromString_of_api_alone hmatch
        have hlong : ¬ ∃ rest, s = s ++ '/' :: rest ∧
            (¬ OneLine rest ∨ SimpleTail rest) := by
          intro hform
          rcases hform with ⟨rest, heq, -⟩
          have hlen := congrArg List.length heq
          simp at hlen
        have hrejects := not_acceptsLosslessly_of_outOfRange hmessage
        simp only [hrejects, hlong, imp_false, not_true]

/-- An API without a slash passes the regular expression and then runs past
the end of the split. -/
theorem not_acceptsLosslessly_api_alone :
    ¬ AcceptsLosslessly "rdk:component:arm".toList := by
  obtain ⟨message, hmessage⟩ :=
    fromString_of_api_alone (s := "rdk:component:arm".toList) (by decide)
  exact not_acceptsLosslessly_of_outOfRange hmessage

end Name

end ViamSdk

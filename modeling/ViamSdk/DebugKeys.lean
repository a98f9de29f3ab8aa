import ViamSdk.ClientContexts
import ViamSdk.KeyedList

/-!
# Debug keys

A debug key is an entry of the extra of a call.  `debug_map` and the two
functions beside it put it there, with the caller's key or a random one; the
client helper takes it out again and hands it to gRPC as metadata.

Which characters gRPC takes is its own affair.  The lower-case letters are
among them, and NUL is not.
-/

namespace ViamSdk

open KeyedList

def lowerCase : Str := "abcdefghijklmnopqrstuvwxyz".toList

/-- The characters that a metadata value may have. -/
structure Grpc.MetadataCharset where
  legal : Char → Bool
  legal_lowerCase : ∀ c ∈ lowerCase, legal c = true
  not_legal_nul : legal (Char.ofNat 0) = false

def Grpc.printableAscii : Grpc.MetadataCharset where
  legal c := decide (0x20 ≤ c.toNat) && decide (c.toNat ≤ 0x7e)
  legal_lowerCase := List.all_eq_true.mp rfl
  not_legal_nul := rfl

/-! ## Putting the key into the extra -/

/-- The array of `random_debug_key`, with the NUL that ends it. -/
def alphanum : Str := lowerCase ++ [Char.ofNat 0]

/-- What the distribution, which takes in both of its bounds, yields: the upper
one, `sizeof(alphanum) - 1`, is the last index of the array. -/
abbrev Draws := Fin 6 → Fin alphanum.length

def randomDebugKey (distribution : Draws) : Str :=
  List.ofFn fun i => alphanum.get (distribution i)

namespace ProtoStruct

/-- `emplace`, which leaves an entry that is there. -/
def emplace (key : Str) (value : ProtoValue)
    (hvalue : value.WellFormed fun _ => True) (map : ProtoStruct) :
    ProtoStruct where
  fields := insertNew map.fields (key, value)
  keyed := keyed_insertNew map.keyed _
  values := by
    intro e he
    unfold insertNew at he
    split at he
    next => exact map.values e he
    next =>
      rcases List.mem_append.mp he with hold | hnew
      · exact map.values e hold
      · rw [List.mem_singleton.mp hnew]
        exact hvalue

end ProtoStruct

def addDebugEntry (map : ProtoStruct) (debugKey : Str) : ProtoStruct :=
  map.emplace ClientHelper.debugMapKey (.string debugKey) (.string debugKey)

def debugMap (debugKey : Str) : ProtoStruct :=
  ProtoStruct.empty.emplace ClientHelper.debugMapKey (.string debugKey)
    (.string debugKey)

def withDebugEntry (map : ProtoStruct) (debugKey : Str) : ProtoStruct :=
  addDebugEntry map debugKey

/-- The key of a call of one of these functions: the overload without one
draws it. -/
inductive KeyArgument where
  | random (distribution : Draws)
  | supplied (debugKey : Str)

def KeyArgument.debugKey : KeyArgument → Str
  | .random distribution => randomDebugKey distribution
  | .supplied debugKey => debugKey

/-- Where the extra of a call comes from: anywhere, or from one of the
functions. -/
inductive ExtraSource where
  | given (extra : ProtoStruct)
  | debugMap (key : KeyArgument)
  | addDebugEntry (map : ProtoStruct) (key : KeyArgument)
  | withDebugEntry (map : ProtoStruct) (key : KeyArgument)

namespace ExtraSource

def extra : ExtraSource → ProtoStruct
  | .given extra => extra
  | .debugMap key => ViamSdk.debugMap key.debugKey
  | .addDebugEntry map key => ViamSdk.addDebugEntry map key.debugKey
  | .withDebugEntry map key => ViamSdk.withDebugEntry map key.debugKey

def FromSdk : ExtraSource → Prop
  | .given _ => False
  | _ => True

def map : ExtraSource → ProtoStruct
  | .given extra => extra
  | .debugMap _ => .empty
  | .addDebugEntry map _ => map
  | .withDebugEntry map _ => map

def key : ExtraSource → Option KeyArgument
  | .given _ => none
  | .debugMap key => some key
  | .addDebugEntry _ key => some key
  | .withDebugEntry _ key => some key

def existing (source : ExtraSource) : Option ProtoValue :=
  source.map.fields.lookup ClientHelper.debugMapKey

/-- The key that the call inserts. -/
def inserted (source : ExtraSource) : Option KeyArgument :=
  if source.existing = none then source.key else none

end ExtraSource

/-! ## Taking it out again -/

/-- What `invoke` hands to the context after `with(extra)`. -/
def ClientHelper.handedKey (extra : ProtoStruct) : Option Str :=
  (debugMapValue extra).bind fun value =>
    if value.getD [] = [] then none else some (value.getD [])

/-- The metadata of a call that is made say the same. -/
theorem RpcCall.values_debugKey
    {env : CallEnv} {authToken : Option Str} {rpc : String}
    {extra : ProtoStruct} {issued : IssuedRpc}
    (hissue : (helper rpc (some extra)).issue env authToken = some issued) :
    issued.context.values ClientContext.debugKey =
      (ClientHelper.handedKey extra).toList := by
  have hplain : (ClientContext.ofChannel env authToken).values
      ClientContext.debugKey = [] := by
    unfold ClientContext.ofChannel ClientContext.injectTraceContext
    rw [ClientContext.values_addOptional_ne (by decide),
      ClientContext.values_addOptional_ne (by decide),
      ClientContext.values_addOptional_ne (by decide)]
    exact ClientContext.values_addMetadata_ne (by decide) env.version _
  simp only [issue, debugKey] at hissue
  unfold ClientHelper.handedKey
  cases hvalue : ClientHelper.debugMapValue extra with
  | none =>
      rw [hvalue] at hissue
      cases hissue
  | some value =>
      simp only [hvalue, Option.map_some, Option.bind_eq_bind,
        Option.bind_some] at hissue ⊢
      split at hissue
      next hempty =>
        cases hissue
        rw [if_pos hempty]
        exact hplain
      next hkey =>
        rw [if_neg hkey]
        split at hissue
        next =>
          cases hissue
          unfold ClientContext.setDebugKey
          rw [ClientContext.values_addMetadata_self, hplain]
          rfl
        next => cases hissue

/-! ## Validity -/

def Grpc.MetadataCharset.Legal (charset : Grpc.MetadataCharset) (s : Str) :
    Prop :=
  ∀ c ∈ s, charset.legal c = true

def SixLetters (s : Str) : Prop := s.length = 6 ∧ ∀ c ∈ s, c ∈ lowerCase

/-- The debug entry is read as a string only if it is one; what a function of
the SDK has put there is legal metadata, and a random key six letters. -/
structure ValidMetadata (charset : Grpc.MetadataCharset)
    (source : ExtraSource) : Prop where
  readsString : ClientHelper.debugMapValue source.extra ≠ none
  handsLegal : source.FromSdk →
    ∀ value, ClientHelper.handedKey source.extra = some value →
      charset.Legal value
  sixLetters : ∀ distribution, source.inserted = some (.random distribution) →
    ∀ value, ClientHelper.handedKey source.extra = some value → SixLetters value

/-- The index past the letters is not drawn; a supplied key is legal. -/
def KeyArgument.Sound (charset : Grpc.MetadataCharset) : KeyArgument → Prop
  | .random distribution => ∀ i, (distribution i).val ≠ 26
  | .supplied debugKey => charset.Legal debugKey

/-- The entry before the call is a string, and a legal one if it stays; the key
that the call inserts is sound. -/
structure ExtraSource.Sound (charset : Grpc.MetadataCharset)
    (source : ExtraSource) : Prop where
  existing : ∀ value, source.existing = some value →
    ∃ s, value = .string s ∧ (source.FromSdk → charset.Legal s)
  inserted : ∀ key, source.inserted = some key → key.Sound charset

/-! ## The random key -/

section Random

variable {charset : Grpc.MetadataCharset} {distribution : Draws}

theorem mem_randomDebugKey
    {c : Char} :
    c ∈ randomDebugKey distribution ↔
      ∃ i, alphanum.get (distribution i) = c := by
  unfold randomDebugKey
  rw [List.mem_ofFn]

theorem alphanum_get_of_ne
    {i : Fin alphanum.length} (hi : i.val ≠ 26) :
    alphanum.get i ∈ lowerCase := by
  revert i
  decide

theorem alphanum_get_of_eq
    {i : Fin alphanum.length} (hi : i.val = 26) :
    alphanum.get i = Char.ofNat 0 := by
  revert i
  decide

theorem sixLetters_randomDebugKey
    (h : (KeyArgument.random distribution).Sound charset) :
    SixLetters (randomDebugKey distribution) := by
  constructor
  · exact List.length_ofFn
  · intro c hc
    rcases mem_randomDebugKey.mp hc with ⟨i, rfl⟩
    exact alphanum_get_of_ne (h i)

theorem SixLetters.legal
    {s : Str} (h : SixLetters s) : charset.Legal s := by
  intro c hc
  exact charset.legal_lowerCase c (h.2 c hc)

theorem legal_debugKey_iff
    {key : KeyArgument} : charset.Legal key.debugKey ↔ key.Sound charset := by
  cases key with
  | supplied debugKey => rfl
  | random distribution =>
      constructor
      · intro hlegal i hi
        have hmem : Char.ofNat 0 ∈ randomDebugKey distribution :=
          mem_randomDebugKey.mpr ⟨i, alphanum_get_of_eq hi⟩
        have hnul := hlegal _ hmem
        rw [charset.not_legal_nul] at hnul
        cases hnul
      · intro hsound
        exact (sixLetters_randomDebugKey hsound).legal

theorem randomDebugKey_ne_nil : randomDebugKey distribution ≠ [] := by
  intro hnil
  have hlength : (randomDebugKey distribution).length = 6 := List.length_ofFn
  rw [hnil] at hlength
  cases hlength

end Random

/-! ## From the function to the context -/

section Entry

variable {charset : Grpc.MetadataCharset} {source : ExtraSource}

theorem ProtoStruct.lookup_emplace
    (key : Str) (value : ProtoValue)
    (hvalue : value.WellFormed fun _ => True) (map : ProtoStruct) :
    (map.emplace key value hvalue).fields.lookup key =
      some ((map.fields.lookup key).getD value) := by
  change (insertNew map.fields (key, value)).lookup key = _
  unfold insertNew
  cases hlookup : map.fields.lookup key with
  | some old =>
      have hmem := exists_lookup_iff.mp ⟨old, hlookup⟩
      rw [if_pos hmem]
      exact hlookup
  | none =>
      have hnot : key ∉ map.fields.map Prod.fst := by
        intro hmem
        rcases exists_lookup_iff.mpr hmem with ⟨old, hold⟩
        rw [hlookup] at hold
        cases hold
      rw [if_neg hnot, List.lookup_append, hlookup]
      simp

/-- The entry of the extra: the one before the call, or else the inserted
key. -/
theorem lookup_extra :
    source.extra.fields.lookup ClientHelper.debugMapKey =
      source.existing.or
        (source.inserted.map fun key => .string key.debugKey) := by
  have hemplace (map : ProtoStruct) (debugKey : Str) :
      (addDebugEntry map debugKey).fields.lookup ClientHelper.debugMapKey =
        some ((map.fields.lookup ClientHelper.debugMapKey).getD
          (.string debugKey)) :=
    ProtoStruct.lookup_emplace _ _ _ map
  unfold ExtraSource.inserted
  cases hexisting : source.existing with
  | some old =>
      cases source with
      | given extra => exact hexisting
      | debugMap key => cases hexisting
      | addDebugEntry map key =>
          change map.fields.lookup ClientHelper.debugMapKey = some old
            at hexisting
          exact (hemplace map key.debugKey).trans (by rw [hexisting]; rfl)
      | withDebugEntry map key =>
          change map.fields.lookup ClientHelper.debugMapKey = some old
            at hexisting
          exact (hemplace map key.debugKey).trans (by rw [hexisting]; rfl)
  | none =>
      cases source with
      | given extra => exact hexisting
      | debugMap key => exact hemplace .empty key.debugKey
      | addDebugEntry map key =>
          change map.fields.lookup ClientHelper.debugMapKey = none at hexisting
          exact (hemplace map key.debugKey).trans (by rw [hexisting]; rfl)
      | withDebugEntry map key =>
          change map.fields.lookup ClientHelper.debugMapKey = none at hexisting
          exact (hemplace map key.debugKey).trans (by rw [hexisting]; rfl)

theorem debugMapValue_of_string
    {extra : ProtoStruct} {s : Str}
    (h : extra.fields.lookup ClientHelper.debugMapKey = some (.string s)) :
    ClientHelper.debugMapValue extra = some (some s) := by
  unfold ClientHelper.debugMapValue
  rw [h]
  rfl

theorem handedKey_of_string
    {extra : ProtoStruct} {s : Str}
    (h : extra.fields.lookup ClientHelper.debugMapKey = some (.string s)) :
    ClientHelper.handedKey extra = if s = [] then none else some s := by
  unfold ClientHelper.handedKey
  rw [debugMapValue_of_string h]
  rfl

theorem legal_of_handsLegal
    {extra : ProtoStruct} {s : Str}
    (h : extra.fields.lookup ClientHelper.debugMapKey = some (.string s)) :
    (∀ value, ClientHelper.handedKey extra = some value →
      charset.Legal value) ↔ charset.Legal s := by
  rw [handedKey_of_string h]
  constructor
  · intro hlegal c hc
    have hne : s ≠ [] := List.ne_nil_of_mem hc
    exact hlegal s (if_neg hne) c hc
  · intro hlegal value hvalue
    split at hvalue
    next => cases hvalue
    next =>
      cases hvalue
      exact hlegal

theorem debugMapValue_ne_none_iff
    {extra : ProtoStruct} {value : ProtoValue}
    (h : extra.fields.lookup ClientHelper.debugMapKey = some value) :
    ClientHelper.debugMapValue extra ≠ none ↔ ∃ s, value = .string s := by
  unfold ClientHelper.debugMapValue
  rw [h]
  cases value <;> simp [ProtoValue.getUncheckedString]

theorem fromSdk_of_inserted
    {key : KeyArgument} (h : source.inserted = some key) : source.FromSdk := by
  cases source with
  | given extra =>
      unfold ExtraSource.inserted at h
      split at h <;> cases h
  | debugMap key => trivial
  | addDebugEntry map key => trivial
  | withDebugEntry map key => trivial

/-- With an entry before the call, everything hangs on that entry. -/
theorem validMetadata_iff_of_existing
    {value : ProtoValue} (hexisting : source.existing = some value) :
    ValidMetadata charset source ↔
      ∃ s, value = .string s ∧ (source.FromSdk → charset.Legal s) := by
  have hinserted : source.inserted = none := by
    unfold ExtraSource.inserted
    rw [hexisting, if_neg (Option.some_ne_none value)]
  have hlookup : source.extra.fields.lookup ClientHelper.debugMapKey =
      some value := by
    rw [lookup_extra, hexisting, Option.some_or]
  constructor
  · intro h
    rcases (debugMapValue_ne_none_iff hlookup).mp h.readsString with ⟨s, rfl⟩
    refine ⟨s, rfl, ?_⟩
    intro hsdk
    exact (legal_of_handsLegal hlookup).mp (h.handsLegal hsdk)
  · rintro ⟨s, rfl, hlegal⟩
    refine ⟨(debugMapValue_ne_none_iff hlookup).mpr ⟨s, rfl⟩, ?_, ?_⟩
    · intro hsdk
      exact (legal_of_handsLegal hlookup).mpr (hlegal hsdk)
    · intro distribution hrandom
      rw [hinserted] at hrandom
      cases hrandom

theorem validMetadata_iff_of_inserted
    {key : KeyArgument} (hexisting : source.existing = none)
    (hinserted : source.inserted = some key) :
    ValidMetadata charset source ↔ key.Sound charset := by
  have hlookup : source.extra.fields.lookup ClientHelper.debugMapKey =
      some (.string key.debugKey) := by
    rw [lookup_extra, hexisting, hinserted]
    rfl
  constructor
  · intro h
    have hlegal := h.handsLegal (fromSdk_of_inserted hinserted)
    exact legal_debugKey_iff.mp ((legal_of_handsLegal hlookup).mp hlegal)
  · intro hsound
    refine ⟨(debugMapValue_ne_none_iff hlookup).mpr ⟨_, rfl⟩, ?_, ?_⟩
    · intro _
      exact (legal_of_handsLegal hlookup).mpr (legal_debugKey_iff.mpr hsound)
    · intro distribution hrandom value hvalue
      rw [hinserted] at hrandom
      cases hrandom
      rw [handedKey_of_string hlookup] at hvalue
      change (if randomDebugKey distribution = [] then none
        else some (randomDebugKey distribution)) = some value at hvalue
      rw [if_neg randomDebugKey_ne_nil] at hvalue
      cases hvalue
      exact sixLetters_randomDebugKey hsound

theorem validMetadata_of_no_entry
    (hexisting : source.existing = none) (hinserted : source.inserted = none) :
    ValidMetadata charset source := by
  have hlookup : source.extra.fields.lookup ClientHelper.debugMapKey =
      none := by
    rw [lookup_extra, hexisting, hinserted]
    rfl
  have hvalue : ClientHelper.debugMapValue source.extra = some none := by
    unfold ClientHelper.debugMapValue
    rw [hlookup]
  have hhanded : ClientHelper.handedKey source.extra = none := by
    unfold ClientHelper.handedKey
    rw [hvalue]
    rfl
  refine ⟨?_, ?_, ?_⟩
  · rw [hvalue]
    exact Option.some_ne_none none
  · intro _ value hsome
    rw [hhanded] at hsome
    cases hsome
  · intro distribution hrandom
    rw [hinserted] at hrandom
    cases hrandom

end Entry

/-- Nothing on the way checks the key: it is valid exactly if it happens to
be. -/
theorem validMetadata_iff_sound
    (charset : Grpc.MetadataCharset) (source : ExtraSource) :
    ValidMetadata charset source ↔ source.Sound charset := by
  cases hexisting : source.existing with
  | some value =>
      rw [validMetadata_iff_of_existing hexisting]
      constructor
      · intro h
        constructor
        · intro value' hvalue'
          rw [hexisting] at hvalue'
          cases hvalue'
          exact h
        · intro key hkey
          unfold ExtraSource.inserted at hkey
          rw [hexisting, if_neg (Option.some_ne_none value)] at hkey
          cases hkey
      · intro h
        exact h.existing value hexisting
  | none =>
      have hnone : ∀ value, source.existing = some value →
          ∃ s, value = .string s ∧ (source.FromSdk → charset.Legal s) := by
        intro value hvalue
        rw [hexisting] at hvalue
        cases hvalue
      cases hinserted : source.inserted with
      | some key =>
          rw [validMetadata_iff_of_inserted hexisting hinserted]
          constructor
          · intro hsound
            refine ⟨hnone, ?_⟩
            intro key' hkey'
            rw [hinserted] at hkey'
            cases hkey'
            exact hsound
          · intro h
            exact h.inserted key hinserted
      | none =>
          refine iff_of_true (validMetadata_of_no_entry hexisting hinserted) ?_
          refine ⟨hnone, ?_⟩
          intro key hkey
          rw [hinserted] at hkey
          cases hkey

/-- `debug_map()`, when the generator yields the last index once. -/
theorem not_validMetadata_lastIndex :
    ¬ ValidMetadata Grpc.printableAscii
      (.debugMap (.random fun i => ⟨21 + i.val, by revert i; decide⟩)) := by
  intro h
  have hlegal := h.handsLegal trivial
    ("vwxyz".toList ++ [Char.ofNat 0]) rfl (Char.ofNat 0) (by simp)
  cases hlegal

end ViamSdk

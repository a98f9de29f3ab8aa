import Mathlib.Data.Prod.Basic
import ViamSdk.KeyedList
import ViamSdk.MonadicMap

/-!
# Codecs that may lose something

A value is encoded into a message and decoded on the other side.  Either step
may fail, and maps come out in an arbitrary arrangement, so what arrives need
not be what was sent: a codec says which values can arrive for a value, and
carries the proof that an encoded value arrives as one of them.
-/

structure WireCodec (ε α : Type) where
  Message : Type
  blank : Message
  encode : Arrangement → α → Except ε Message
  decode : Arrangement → Message → Except ε α
  /-- The second can arrive where the first was sent. -/
  Arrives : α → α → Prop
  decode_encode : ∀ {o : Arrangement} (o' : Arrangement) {a : α}
    {message : Message}, encode o a = .ok message →
      ∃ b, decode o' message = .ok b ∧ Arrives a b

namespace WireCodec

open MonadicMap

variable {ε α β : Type}

instance (codec : WireCodec ε α) : Inhabited codec.Message := ⟨codec.blank⟩

theorem exists_of_map_ok
    {x : Except ε α} {f : α → β} {b : β} (h : f <$> x = .ok b) :
    ∃ a, x = .ok a ∧ f a = b := by
  cases x with
  | error e => cases h
  | ok a =>
      cases h
      exact ⟨a, rfl, rfl⟩

/-- Values that always encode, whatever the arrangement. -/
def lossy {μ : Type} [Inhabited μ] (encode : Arrangement → α → μ)
    (decode : Arrangement → μ → Except ε α) (arrives : α → α → Prop)
    (h : ∀ o o' a, ∃ b, decode o' (encode o a) = .ok b ∧ arrives a b) :
    WireCodec ε α where
  Message := μ
  blank := default
  encode o a := .ok (encode o a)
  decode := decode
  Arrives := arrives
  decode_encode {o} o' {a _} hencode := by
    cases hencode
    exact h o o' a

/-- Values that arrive as they were sent. -/
def exact {μ : Type} [Inhabited μ] (encode : α → μ) (decode : μ → α)
    (h : ∀ a, decode (encode a) = a) : WireCodec ε α :=
  lossy (fun _ => encode) (fun _ message => .ok (decode message))
    (fun sent received => received = sent)
    fun _ _ a => ⟨a, by rw [h], rfl⟩

/-- The value is the message. -/
def plain [Inhabited α] : WireCodec ε α := exact id id fun _ => rfl

def nothing : WireCodec ε Unit := plain

/-- Values that are checked before they are encoded and after they have been
decoded.  Whatever passes the first check still passes the second when it
arrives. -/
def checked (codec : WireCodec ε α) (before after : α → Except ε Unit)
    (h : ∀ {a b : α}, before a = .ok () → codec.Arrives a b → after b = .ok ()) :
    WireCodec ε α where
  Message := codec.Message
  blank := codec.blank
  encode o a := before a >>= fun _ => codec.encode o a
  decode o message := codec.decode o message >>= fun a =>
    after a >>= fun _ => .ok a
  Arrives := codec.Arrives
  decode_encode {_} o' {_ _} hencode := by
    obtain ⟨_, hbefore, hencode⟩ := exists_of_bind_ok hencode
    obtain ⟨b, hdecode, harrives⟩ := codec.decode_encode o' hencode
    have hafter := h hbefore harrives
    refine ⟨b, ?_, harrives⟩
    simp only [hdecode, hafter, bind, Except.bind]

section Repeated

variable (codec : WireCodec ε α)

theorem mapM_decode_mapM_encode
    {o : Arrangement} (o' : Arrangement) {as : List α}
    {messages : List codec.Message} (h : as.mapM (codec.encode o) = .ok messages) :
    ∃ bs, messages.mapM (codec.decode o') = .ok bs ∧
      List.Forall₂ codec.Arrives as bs := by
  induction as generalizing messages with
  | nil =>
      rw [List.mapM_nil] at h
      cases h
      exact ⟨[], rfl, List.Forall₂.nil⟩
  | cons a as ih =>
      rw [List.mapM_cons] at h
      obtain ⟨message, hfirst, h⟩ := exists_of_bind_ok h
      obtain ⟨rest, hrest, h⟩ := exists_of_bind_ok h
      cases h
      obtain ⟨b, hb, harrives⟩ := codec.decode_encode o' hfirst
      obtain ⟨bs, hbs, hall⟩ := ih hrest
      refine ⟨b :: bs, ?_, List.Forall₂.cons harrives hall⟩
      rw [List.mapM_cons, hb, hbs]
      rfl

/-- A repeated field. -/
def repeated : WireCodec ε (List α) where
  Message := List codec.Message
  blank := []
  encode o as := as.mapM (codec.encode o)
  decode o messages := messages.mapM (codec.decode o)
  Arrives := List.Forall₂ codec.Arrives
  decode_encode := codec.mapM_decode_mapM_encode

end Repeated

section Keyed

open KeyedList

variable {κ μ : Type} [DecidableEq κ]

/-- Copying the entries of a map, and the copies back, keeps what is found. -/
theorem find_ofEntries_ofEntries
    {encode : α → μ} {decode : μ → α} (h : ∀ a, decode (encode a) = a)
    (o o' : Arrangement) (m : KeyedMap κ α) (key : κ) :
    (KeyedMap.ofEntries o' ((KeyedMap.ofEntries o (m.entries.map fun entry =>
        (entry.1, encode entry.2))).entries.map fun entry =>
          (entry.1, decode entry.2))).find key = m.find key := by
  have hperm := build_map_build_perm o o' m.keyed encode decode
  simp only [h, Prod.mk.eta, List.map_id'] at hperm
  exact lookup_eq_of_perm m.keyed hperm key

/-- A map field. -/
def keyed (encode : α → μ) (decode : μ → α)
    (h : ∀ a, decode (encode a) = a) : WireCodec ε (KeyedMap κ α) :=
  lossy
    (fun o m => KeyedMap.ofEntries o (m.entries.map fun entry =>
      (entry.1, encode entry.2)))
    (fun o message => .ok (KeyedMap.ofEntries o (message.entries.map
      fun entry => (entry.1, decode entry.2))))
    (fun sent received => ∀ key, received.find key = sent.find key)
    fun o o' m => ⟨_, rfl, find_ofEntries_ofEntries h o o' m⟩

end Keyed

end WireCodec

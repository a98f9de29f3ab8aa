import Mathlib.Data.Nat.Digits.Defs
import Mathlib.Tactic.Common

/-!
# Words in memory and their byte order

A word of `w` bytes is a number below `256 ^ w`.  A host keeps its words in
one of two byte orders, and a conversion between the host's order and a fixed
one reverses the bytes of the number or leaves them alone.  Storing a number
after such a conversion writes the bytes of the fixed order on any host.
-/

namespace ByteOrder

inductive Order where
  | big
  | little
  deriving DecidableEq, Repr

/-- The number whose bytes are given, the least significant one first. -/
def value (bytes : List UInt8) : ℕ := Nat.ofDigits 256 (bytes.map UInt8.toNat)

/-- The `w` low bytes of `n`, the least significant one first. -/
def lowBytes : ℕ → ℕ → List UInt8
  | 0, _ => []
  | w + 1, n => UInt8.ofNat n :: lowBytes w (n / 256)

@[simp]
theorem length_lowBytes (w n : ℕ) : (lowBytes w n).length = w := by
  induction w generalizing n with
  | zero => rfl
  | succ w ih => simp only [lowBytes, List.length_cons, ih]

theorem value_cons
    (b : UInt8) (bytes : List UInt8) :
    value (b :: bytes) = b.toNat + 256 * value bytes := by
  unfold value
  rw [List.map_cons, Nat.ofDigits_cons]

theorem value_lowBytes
    {w n : ℕ} (hn : n < 256 ^ w) :
    value (lowBytes w n) = n := by
  induction w generalizing n with
  | zero =>
      rw [pow_zero] at hn
      have hzero : n = 0 := by omega
      subst n
      rfl
  | succ w ih =>
      rw [pow_succ] at hn
      have hhigh : n / 256 < 256 ^ w := by omega
      rw [lowBytes, value_cons, ih hhigh, UInt8.toNat_ofNat']
      omega

theorem lowBytes_value
    (bytes : List UInt8) :
    lowBytes bytes.length (value bytes) = bytes := by
  induction bytes with
  | nil => rfl
  | cons b bytes ih =>
      have hb : b.toNat < 256 := b.toNat_lt
      rw [List.length_cons, value_cons, lowBytes]
      have hhigh : (b.toNat + 256 * value bytes) / 256 = value bytes := by omega
      have hlow : UInt8.ofNat (b.toNat + 256 * value bytes) = b := by
        apply UInt8.toNat_inj.mp
        rw [UInt8.toNat_ofNat']
        omega
      rw [hhigh, hlow, ih]

theorem value_lt (bytes : List UInt8) : value bytes < 256 ^ bytes.length := by
  unfold value
  rw [← List.length_map UInt8.toNat]
  apply Nat.ofDigits_lt_base_pow_length (by omega)
  intro x hx
  rcases List.mem_map.mp hx with ⟨b, -, hb⟩
  rw [← hb]
  exact b.toNat_lt

/-! ## One word -/

def store (order : Order) (w n : ℕ) : List UInt8 :=
  match order with
  | .big => (lowBytes w n).reverse
  | .little => lowBytes w n

def load (order : Order) (bytes : List UInt8) : ℕ :=
  match order with
  | .big => value bytes.reverse
  | .little => value bytes

/-- The word with the bytes of `n` in the reverse order. -/
def reverseBytes (w n : ℕ) : ℕ := load .big (store .little w n)

/-- The conversion between the order of the host and the big-endian one. -/
def swapOn (host : Order) (w n : ℕ) : ℕ :=
  match host with
  | .big => n
  | .little => reverseBytes w n

/-- The conversion between the order of the host and the little-endian one. -/
def swapLittleOn (host : Order) (w n : ℕ) : ℕ :=
  match host with
  | .big => reverseBytes w n
  | .little => n

section Word

variable {order host : Order} {w n : ℕ} {bytes : List UInt8}

@[simp]
theorem length_store (order : Order) (w n : ℕ) :
    (store order w n).length = w := by
  cases order <;> simp [store]

theorem load_store (hn : n < 256 ^ w) : load order (store order w n) = n := by
  cases order with
  | big => simp only [load, store, List.reverse_reverse, value_lowBytes hn]
  | little => simp only [load, store, value_lowBytes hn]

theorem store_load
    (hbytes : bytes.length = w) :
    store order w (load order bytes) = bytes := by
  subst w
  cases order with
  | big =>
      simp only [load, store]
      rw [← List.length_reverse, lowBytes_value, List.reverse_reverse]
  | little => exact lowBytes_value bytes

theorem load_lt (hbytes : bytes.length = w) : load order bytes < 256 ^ w := by
  subst w
  cases order with
  | big =>
      have hlt := value_lt bytes.reverse
      rw [List.length_reverse] at hlt
      exact hlt
  | little => exact value_lt bytes

theorem reverseBytes_load
    (hbytes : bytes.length = w) :
    reverseBytes w (load .little bytes) = load .big bytes := by
  unfold reverseBytes
  rw [store_load hbytes]

theorem store_swapOn
    (host : Order) (w n : ℕ) :
    store host w (swapOn host w n) = store .big w n := by
  cases host with
  | big => rfl
  | little =>
      have hlength : (store .little w n).reverse.length = w := by simp
      calc
        store .little w (reverseBytes w n) =
            store .little w (load .little (store .little w n).reverse) := rfl
        _ = (store .little w n).reverse := store_load hlength

theorem store_swapLittleOn
    (host : Order) (w n : ℕ) :
    store host w (swapLittleOn host w n) = store .little w n := by
  cases host with
  | big => exact store_load (length_store .little w n)
  | little => rfl

theorem swapOn_load
    (hbytes : bytes.length = w) :
    swapOn host w (load host bytes) = load .big bytes := by
  cases host with
  | big => rfl
  | little => exact reverseBytes_load hbytes

end Word

/-! ## Arrays of words -/

def storeAll (order : Order) (w : ℕ) (words : List ℕ) : List UInt8 :=
  words.flatMap (store order w)

/-- The array of `n` words that the bytes are read as. -/
def loadAll (order : Order) (w : ℕ) : ℕ → List UInt8 → List ℕ
  | 0, _ => []
  | n + 1, bytes =>
      load order (bytes.take w) :: loadAll order w n (bytes.drop w)

section Array

variable {order host : Order} {w n : ℕ} {bytes : List UInt8}

@[simp]
theorem length_storeAll
    (order : Order) (w : ℕ) (words : List ℕ) :
    (storeAll order w words).length = w * words.length := by
  induction words with
  | nil => rfl
  | cons n words ih =>
      have hlength : (storeAll order w (n :: words)).length =
          w + (storeAll order w words).length := by
        simp [storeAll]
      rw [hlength, ih, List.length_cons, Nat.mul_succ, Nat.add_comm]

@[simp]
theorem length_loadAll
    (order : Order) (w n : ℕ) (bytes : List UInt8) :
    (loadAll order w n bytes).length = n := by
  induction n generalizing bytes with
  | zero => rfl
  | succ n ih => simp only [loadAll, List.length_cons, ih]

theorem loadAll_storeAll_append
    {words : List ℕ} (hwords : ∀ n ∈ words, n < 256 ^ w) (n : ℕ)
    (bytes : List UInt8) :
    loadAll order w (words.length + n) (storeAll order w words ++ bytes) =
      words ++ loadAll order w n bytes := by
  induction words with
  | nil => simp [storeAll]
  | cons m words ih =>
      have hsplit : storeAll order w (m :: words) ++ bytes =
          store order w m ++ (storeAll order w words ++ bytes) := by
        simp [storeAll]
      have hcount : (m :: words).length + n = (words.length + n) + 1 := by
        rw [List.length_cons]
        omega
      rw [hcount, loadAll, hsplit,
        List.take_left' (length_store order w m),
        List.drop_left' (length_store order w m),
        load_store (hwords m List.mem_cons_self),
        ih fun k hk => hwords k (List.mem_cons_of_mem m hk)]
      rfl

theorem loadAll_storeAll
    {words : List ℕ} (hwords : ∀ n ∈ words, n < 256 ^ w) :
    loadAll order w words.length (storeAll order w words) = words := by
  have happend : loadAll order w (words.length + 0)
      (storeAll order w words ++ []) = words ++ loadAll order w 0 [] :=
    loadAll_storeAll_append hwords 0 []
  simpa [loadAll] using happend

theorem storeAll_loadAll
    (hbytes : bytes.length = w * n) :
    storeAll order w (loadAll order w n bytes) = bytes := by
  induction n generalizing bytes with
  | zero =>
      rw [Nat.mul_zero, List.length_eq_zero_iff] at hbytes
      subst bytes
      rfl
  | succ n ih =>
      rw [Nat.mul_succ] at hbytes
      have htake : (bytes.take w).length = w := by
        rw [List.length_take]
        omega
      have hdrop : (bytes.drop w).length = w * n := by
        rw [List.length_drop]
        omega
      calc
        storeAll order w (loadAll order w (n + 1) bytes) =
            store order w (load order (bytes.take w)) ++
              storeAll order w (loadAll order w n (bytes.drop w)) := rfl
        _ = bytes.take w ++ bytes.drop w := by rw [store_load htake, ih hdrop]
        _ = bytes := List.take_append_drop w bytes

theorem lt_of_mem_loadAll
    (hbytes : bytes.length = w * n) :
    ∀ m ∈ loadAll order w n bytes, m < 256 ^ w := by
  induction n generalizing bytes with
  | zero =>
      intro m hm
      cases hm
  | succ n ih =>
      intro m hm
      rw [Nat.mul_succ] at hbytes
      rcases List.mem_cons.mp hm with hfirst | hrest
      · rw [hfirst]
        apply load_lt
        rw [List.length_take]
        omega
      · apply ih _ m hrest
        rw [List.length_drop]
        omega

/-- Reading an array in the order of the host and converting every word is
reading it in the big-endian order. -/
theorem map_swapOn_loadAll
    (hbytes : bytes.length = w * n) :
    (loadAll host w n bytes).map (swapOn host w) = loadAll .big w n bytes := by
  induction n generalizing bytes with
  | zero => rfl
  | succ n ih =>
      rw [Nat.mul_succ] at hbytes
      have htake : (bytes.take w).length = w := by
        rw [List.length_take]
        omega
      have hdrop : (bytes.drop w).length = w * n := by
        rw [List.length_drop]
        omega
      rw [loadAll, loadAll, List.map_cons, swapOn_load htake, ih hdrop]

end Array

end ByteOrder

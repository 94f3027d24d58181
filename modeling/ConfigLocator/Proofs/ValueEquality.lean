import ConfigLocator.Value
import Mathlib.Algebra.Order.Field.Rat
import Mathlib.Tactic.Positivity

/-!
# Equality of values

Values of different kinds can be the same: `true`, `1` and `1.0` are. This module gives every value
that can be an item of a set a meaning, in which a number is the number alone (`Value.meaning`), and
shows that two items are the same exactly if they mean the same (`Value.same_iff_meaning`). So the
equality of items is an equivalence, which it is not beyond them: NaN is not the same as itself.
-/

namespace ConfigLocator

/-- The number that a value holds, in whatever form. -/
inductive Quantity where
  | finite (q : ℚ)
  | infinite (negative : Bool)
  | nan

/-- What a value stands for. -/
inductive Meaning where
  | null
  | number (x : Quantity)
  | text (t : Text)
  | bytes (content : List UInt8)
  | date (d : Date)
  | moment (aware : Bool) (instant : Int)
  | tuple (items : List Meaning)
  | none

/-! ## Numbers -/

namespace Binary64

def quantity : Binary64 → Quantity
  | finite negative mantissa exponent =>
    .finite ((if negative then -1 else 1) * mantissa * 2 ^ exponent)
  | infinite negative => .infinite negative
  | nan => .nan

theorem scaleDown_neg (mantissa : Nat) (exponent : Int) :
    0 < (scaleDown mantissa 1 (-exponent)).2
      ∧ ((scaleDown mantissa 1 (-exponent)).1 : ℚ) / (scaleDown mantissa 1 (-exponent)).2
          = mantissa * 2 ^ exponent := by
  unfold scaleDown
  split
  case isTrue h =>
    obtain ⟨n, rfl⟩ := Int.eq_ofNat_of_zero_le (show 0 ≤ exponent by omega)
    simp
  case isFalse h =>
    obtain ⟨n, hn⟩ := Int.eq_ofNat_of_zero_le (show 0 ≤ -exponent by omega)
    obtain rfl : exponent = -n := by omega
    simp [div_eq_mul_inv]

/-- Numerator and denominator make up the number. -/
theorem ratio?_finite (negative : Bool) (mantissa : Nat) (exponent : Int) :
    ∃ (num : Int) (den : Nat), (finite negative mantissa exponent).ratio? = some (num, den)
      ∧ 0 < den ∧ (finite negative mantissa exponent).quantity = .finite (num / den) := by
  obtain ⟨hden, hratio⟩ := scaleDown_neg mantissa exponent
  refine ⟨if negative then -(scaleDown mantissa 1 (-exponent)).1
    else (scaleDown mantissa 1 (-exponent)).1, (scaleDown mantissa 1 (-exponent)).2, rfl, hden, ?_⟩
  rw [quantity, mul_assoc, ← hratio]
  cases negative <;> simp [neg_div]

theorem cross_eq_iff {a c : Int} {b d : Nat} (hb : 0 < b) (hd : 0 < d) :
    a * d = c * b ↔ (a : ℚ) / b = c / d := by
  rw [div_eq_div_iff (by positivity) (by positivity)]
  exact_mod_cast Iff.rfl

theorem same_iff_quantity {x y : Binary64} (hx : x ≠ nan) (hy : y ≠ nan) :
    x.same y = true ↔ x.quantity = y.quantity := by
  cases x with
  | nan => exact absurd rfl hx
  | infinite a => cases y <;> simp [same, ratio?, quantity]
  | finite a m e =>
      obtain ⟨num, den, hratio, hden, hquantity⟩ := ratio?_finite a m e
      cases y with
      | nan => exact absurd rfl hy
      | infinite b => simp [same, ratio?, quantity]
      | finite b n f =>
          obtain ⟨num', den', hratio', hden', hquantity'⟩ := ratio?_finite b n f
          rw [hquantity, hquantity', Quantity.finite.injEq, ← cross_eq_iff hden hden']
          simp [same, hratio, hratio']

theorem sameAsInt_iff_quantity (x : Binary64) (n : Int) :
    x.sameAsInt n = true ↔ x.quantity = .finite n := by
  cases x with
  | nan | infinite _ => simp [sameAsInt, ratio?, quantity]
  | finite a m e =>
      obtain ⟨num, den, hratio, hden, hquantity⟩ := ratio?_finite a m e
      have hone : (n : ℚ) = n / (1 : Nat) := by simp
      rw [hquantity, hone, Quantity.finite.injEq, ← cross_eq_iff hden Nat.one_pos, sameAsInt, hratio]
      simp

end Binary64

/-! ## Items -/

namespace Value

mutual

/-- Is NaN, or a tuple with NaN inside. -/
def holdsNaN : Value → Bool
  | float x => x == .nan
  | tuple items => holdNaN items
  | _ => false

def holdNaN : List Value → Bool
  | [] => false
  | v :: rest => holdsNaN v || holdNaN rest

end

/-- Fit to be looked up: a key, and the same as itself. -/
structure IsItem (v : Value) : Prop where
  isKey : v.isKey = true
  holdsNaN : v.holdsNaN = false

mutual

def meaning : Value → Meaning
  | null => .null
  | bool b => .number (.finite (if b then 1 else 0))
  | int n => .number (.finite n)
  | float x => .number x.quantity
  | text t => .text t
  | bytes content => .bytes content
  | date d => .date d
  | moment m => .moment m.offset.isSome m.instant
  | tuple items => .tuple (meanings items)
  | list _ | set _ | map _ => .none

def meanings : List Value → List Meaning
  | [] => []
  | v :: rest => meaning v :: meanings rest

end

theorem IsItem.of_float {x : Binary64} (h : (float x).IsItem) : x ≠ .nan := by
  simpa [Value.holdsNaN] using h.holdsNaN

theorem meaning_of_integer {a : Value} {n : Int} (ha : a.integer? = some n) :
    a.meaning = .number (.finite n) := by
  cases a with
  | bool b =>
      obtain rfl : (if b then 1 else 0) = n := by simpa [integer?] using ha
      cases b <;> simp [meaning]
  | int m =>
      obtain rfl : m = n := by simpa [integer?] using ha
      rfl
  | _ => simp [integer?] at ha

theorem same_float_iff_meaning {x : Binary64} {b : Value} (hx : x ≠ .nan) (hb : b.IsItem) :
    (float x).same b = true ↔ (float x).meaning = b.meaning := by
  cases b with
  | float y => simpa [same, meaning] using Binary64.same_iff_quantity hx hb.of_float
  | bool c => cases c <;> simp [same, integer?, meaning, Binary64.sameAsInt_iff_quantity]
  | int n => simp [same, integer?, meaning, Binary64.sameAsInt_iff_quantity]
  | _ => simp [same, integer?, meaning]

theorem same_integer_iff_meaning {a : Value} {n : Int} (ha : a.integer? = some n) (b : Value) :
    a.same b = true ↔ a.meaning = b.meaning := by
  rw [meaning_of_integer ha]
  cases hb : b.integer? with
  | some m =>
      rw [meaning_of_integer hb]
      cases a <;> cases b <;> simp_all [same, integer?]
  | none =>
      cases b with
      | bool _ | int _ => simp [integer?] at hb
      | float y =>
          have hsame : a.same (float y) = y.sameAsInt n := by
            cases a <;> simp_all [same, integer?]
          rw [hsame, Binary64.sameAsInt_iff_quantity, meaning, Meaning.number.injEq]
          exact eq_comm
      | _ => cases a <;> simp_all [same, integer?, meaning]

theorem IsItem.of_tuple_cons {v : Value} {items : List Value} (h : (tuple (v :: items)).IsItem) :
    v.IsItem ∧ (tuple items).IsItem := by
  obtain ⟨hkey, hnan⟩ := h
  simp only [Value.isKey, areKeys, Bool.and_eq_true, Value.holdsNaN, holdNaN, Bool.or_eq_false_iff]
    at hkey hnan
  exact ⟨⟨hkey.1, hnan.1⟩, ⟨hkey.2, hnan.2⟩⟩

mutual

/-- Two items are the same exactly if they mean the same. -/
theorem same_iff_meaning : ∀ {a b : Value}, a.IsItem → b.IsItem →
    (a.same b = true ↔ a.meaning = b.meaning)
  | float _, _, ha, hb => same_float_iff_meaning ha.of_float hb
  | bool _, b, _, _ | int _, b, _, _ => same_integer_iff_meaning rfl b
  | null, b, _, _ => by cases b <;> simp [same, integer?, meaning]
  | text _, b, _, _ => by cases b <;> simp [same, integer?, meaning]
  | bytes _, b, _, _ => by cases b <;> simp [same, integer?, meaning]
  | date _, b, _, _ => by cases b <;> simp [same, integer?, meaning]
  | moment _, b, _, _ => by cases b <;> simp [same, integer?, meaning, Moment.same]
  | tuple as, b, ha, hb => by
      cases b with
      | tuple bs => simpa [same, meaning] using sameItems_iff_meanings ha hb
      | _ => simp [same, integer?, meaning]
  | list _, _, ha, _ | set _, _, ha, _ | map _, _, ha, _ => nomatch ha.isKey

theorem sameItems_iff_meanings : ∀ {as bs : List Value}, (tuple as).IsItem → (tuple bs).IsItem →
    (sameItems as bs = true ↔ meanings as = meanings bs)
  | [], [], _, _ => by simp [sameItems, meanings]
  | [], _ :: _, _, _ | _ :: _, [], _, _ => by simp [sameItems, meanings]
  | a :: as, b :: bs, has, hbs => by
      rw [sameItems, Bool.and_eq_true, same_iff_meaning has.of_tuple_cons.1 hbs.of_tuple_cons.1,
        sameItems_iff_meanings has.of_tuple_cons.2 hbs.of_tuple_cons.2, meanings, meanings,
        List.cons.injEq]

end

end Value

end ConfigLocator

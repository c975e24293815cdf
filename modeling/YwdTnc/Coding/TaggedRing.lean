import Mathlib.Data.Int.ModEq
import Mathlib.Algebra.Order.Group.Nat

/-!
# Rings with tags

A ring has `n` slots for a series of values that only grows at its end. The value with the
index `i` goes to the slot `i % n` together with the tag `i`, and a lookup hits when the slot
still carries the tag it asks for. So the last `n` values of the series can be looked up
(`Retains.lookup`), and nothing else is mistaken for one of them.
-/

namespace Coding

structure TaggedRing (n : ℕ) (α : Type*) where
  tags : Vector ℤ n
  values : Vector α n

namespace TaggedRing

variable {n : ℕ} [NeZero n] {α : Type*} {r : TaggedRing n α} {f g : ℤ → α} {i j first next : ℤ}

def init (n : ℕ) (tag : ℤ) (value : α) : TaggedRing n α :=
  ⟨Vector.replicate n tag, Vector.replicate n value⟩

def slot (n : ℕ) [NeZero n] (i : ℤ) : Fin n :=
  Fin.ofNat n (i % n).toNat

def store (r : TaggedRing n α) (i : ℤ) (value : α) : TaggedRing n α where
  tags := r.tags.set (slot n i) i
  values := r.values.set (slot n i) value

def lookup (r : TaggedRing n α) (i : ℤ) : Option α :=
  if r.tags[slot n i] = i then some r.values[slot n i] else none

theorem slot_val (i : ℤ) : ((slot n i : ℕ) : ℤ) = i % n := by
  have hn : (0 : ℤ) < n := by exact_mod_cast NeZero.pos n
  have hlow : 0 ≤ i % n := Int.emod_nonneg i hn.ne'
  have hhigh : i % n < n := Int.emod_lt_of_pos i hn
  simp only [slot, Fin.val_ofNat]
  rw [Nat.mod_eq_of_lt (by omega)]
  omega

/-- Two indices less than `n` apart have different slots. -/
theorem slot_ne (hij : i < j) (hnear : j < i + n) : slot n i ≠ slot n j := by
  intro hslot
  have hmod : i % n = j % n := by rw [← slot_val, ← slot_val, hslot]
  have hdvd : (n : ℤ) ∣ j - i := Int.ModEq.dvd hmod
  have hle := Int.le_of_dvd (by omega) hdvd
  omega

@[simp] theorem lookup_store_self (value : α) : (r.store i value).lookup i = some value := by
  simp [lookup, store]

theorem lookup_store_of_near (value : α) (hij : i < j) (hnear : j < i + n) :
    (r.store j value).lookup i = r.lookup i := by
  have hne : (slot n j : ℕ) ≠ slot n i := fun h => slot_ne hij hnear (Fin.ext h.symm)
  simp [lookup, store, Vector.getElem_set_ne, hne]

/-- The ring has been given `f first`, `f (first + 1)` and so on, up to the index `next`. -/
def Retains (r : TaggedRing n α) (f : ℤ → α) (first next : ℤ) : Prop :=
  ∀ i, first ≤ i → i < next → next ≤ i + n → r.lookup i = some (f i)

theorem retains_of_le (h : next ≤ first) : r.Retains f first next := by
  intro i hfirst hnext
  omega

theorem Retains.lookup (h : r.Retains f first next) (hfirst : first ≤ i) (hnext : i < next)
    (hnear : next ≤ i + n) : r.lookup i = some (f i) :=
  h i hfirst hnext hnear

theorem Retains.store (h : r.Retains f first next) :
    (r.store next (f next)).Retains f first (next + 1) := by
  intro i hfirst hnext hnear
  rcases (Int.lt_add_one_iff.mp hnext).lt_or_eq with hlt | rfl
  · rw [lookup_store_of_near _ hlt (by omega)]
    exact h i hfirst hlt (by omega)
  · exact lookup_store_self _

theorem Retains.congr (h : r.Retains f first next)
    (hfg : ∀ i, first ≤ i → i < next → f i = g i) : r.Retains g first next := by
  intro i hfirst hnext hnear
  rw [h i hfirst hnext hnear, hfg i hfirst hnext]

end TaggedRing

end Coding

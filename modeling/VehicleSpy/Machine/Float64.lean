import VehicleSpy.Machine.Binary64

/-! # The values of binary64

Finite values as rationals, the infinities and not-a-number, with sum and product. The two zeros
are one.
-/

namespace VehicleSpy.Machine

open Binary64

inductive Float64
  | finite (x : ℚ)
  | infinite (negative : Bool)
  | nan
  deriving DecidableEq

namespace Float64

/-- A result that is too great becomes infinite. -/
def ofExact (x : ℚ) : Float64 :=
  if 2 ^ 1024 ≤ |rnd x| then .infinite (decide (x < 0)) else .finite (rnd x)

def add : Float64 → Float64 → Float64
  | .finite x, .finite y => ofExact (x + y)
  | .infinite a, .infinite b => if a = b then .infinite a else .nan
  | .infinite a, .finite _ => .infinite a
  | .finite _, .infinite b => .infinite b
  | .nan, _ => .nan
  | _, .nan => .nan

/-- The product of an infinite value with a finite one. -/
def mulInfinite (negative : Bool) (x : ℚ) : Float64 :=
  if x = 0 then .nan else .infinite (negative != decide (x < 0))

def mul : Float64 → Float64 → Float64
  | .finite x, .finite y => ofExact (x * y)
  | .infinite a, .infinite b => .infinite (a != b)
  | .infinite a, .finite y => mulInfinite a y
  | .finite x, .infinite b => mulInfinite b x
  | .nan, _ => .nan
  | _, .nan => .nan

instance : Add Float64 := ⟨add⟩

instance : Mul Float64 := ⟨mul⟩

/-- `0 <= x`. -/
def Nonneg : Float64 → Prop
  | .finite x => 0 ≤ x
  | .infinite negative => negative = false
  | .nan => False

variable {a b : Float64} {x : ℚ}

theorem nonneg_ofExact (h : 0 ≤ x) : (ofExact x).Nonneg := by
  unfold ofExact
  split
  · exact decide_eq_false (not_lt.mpr h)
  · exact rnd_nonneg h

theorem nonneg_add (ha : a.Nonneg) (hb : b.Nonneg) : (a + b).Nonneg := by
  rcases a with x | p | _
  · rcases b with y | q | _
    · exact nonneg_ofExact (add_nonneg ha hb)
    · exact hb
    · exact hb.elim
  · rcases b with y | q | _
    · exact ha
    · obtain rfl : p = false := ha
      obtain rfl : q = false := hb
      rfl
    · exact hb.elim
  · exact ha.elim

theorem nonneg_mul (ha : a.Nonneg) (hx : 0 < x) : (a * .finite x).Nonneg := by
  rcases a with y | p | _
  · exact nonneg_ofExact (mul_nonneg ha hx.le)
  · obtain rfl : p = false := ha
    have hmul : Float64.infinite false * .finite x = mulInfinite false x := rfl
    rw [hmul, mulInfinite, if_neg hx.ne']
    exact (bne_eq_false_iff_eq).mpr (decide_eq_false (not_lt.mpr hx.le)).symm
  · exact ha.elim

end Float64

end VehicleSpy.Machine

import Mathlib.Data.BitVec

/-!
# Masks of bits

Inclusion of bit masks and the union of a list of them.
-/

namespace BitMask

variable {w : ℕ} {a b c : BitVec w} {masks : List (BitVec w)}

def Sub (a b : BitVec w) : Prop := a &&& ~~~b = 0#w

instance (a b : BitVec w) : Decidable (Sub a b) := inferInstanceAs (Decidable (_ = _))

theorem sub_iff : Sub a b ↔ ∀ i, a.getLsbD i = true → b.getLsbD i = true := by
  constructor
  · intro sub i inFirst
    have within : i < w := BitVec.lt_of_getLsbD inFirst
    have bit := congrArg (fun mask : BitVec w => mask.getLsbD i) sub
    simpa [within, inFirst] using bit
  · intro all
    apply BitVec.eq_of_getLsbD_eq
    intro i within
    have bit := all i
    cases inFirst : a.getLsbD i <;> simp_all

theorem Sub.refl (a : BitVec w) : Sub a a := sub_iff.mpr fun _ inFirst => inFirst

theorem Sub.of_eq (same : a = b) : Sub a b := same ▸ Sub.refl a

theorem Sub.trans (first : Sub a b) (second : Sub b c) : Sub a c := by
  rw [sub_iff] at *
  exact fun i inFirst => second i (first i inFirst)

theorem Sub.antisymm (first : Sub a b) (second : Sub b a) : a = b := by
  rw [sub_iff] at first second
  apply BitVec.eq_of_getLsbD_eq
  intro i _
  exact Bool.eq_iff_iff.mpr ⟨first i, second i⟩

@[simp]
theorem zero_sub : Sub 0#w a := by
  simp [sub_iff]

theorem or_sub : Sub (a ||| b) c ↔ Sub a c ∧ Sub b c := by
  simp only [sub_iff, BitVec.getLsbD_or, Bool.or_eq_true]
  constructor
  · exact fun both => ⟨fun i inFirst => both i (Or.inl inFirst),
      fun i inSecond => both i (Or.inr inSecond)⟩
  · rintro ⟨first, second⟩ i (inFirst | inSecond)
    · exact first i inFirst
    · exact second i inSecond

theorem sub_or_left : Sub a (a ||| b) := (or_sub.mp (Sub.refl (a ||| b))).1

theorem sub_or_right : Sub b (a ||| b) := (or_sub.mp (Sub.refl (a ||| b))).2

theorem Sub.sdiff (sub : Sub a b) (removed : BitVec w) :
    Sub (a &&& ~~~removed) (b &&& ~~~removed) := by
  rw [sub_iff] at *
  intro i
  simp only [BitVec.getLsbD_and, Bool.and_eq_true]
  exact fun ⟨inFirst, notRemoved⟩ => ⟨sub i inFirst, notRemoved⟩

theorem or_sdiff (removed : BitVec w) :
    (a ||| b) &&& ~~~removed = (a &&& ~~~removed) ||| (b &&& ~~~removed) := by
  apply BitVec.eq_of_getLsbD_eq
  intro i within
  simp [within, Bool.and_or_distrib_right]

def union (masks : List (BitVec w)) : BitVec w := masks.foldl (· ||| ·) 0#w

theorem foldl_or (start : BitVec w) :
    masks.foldl (· ||| ·) start = start ||| union masks := by
  induction masks generalizing start with
  | nil => simp [union]
  | cons mask rest ih =>
      rw [union, List.foldl_cons, List.foldl_cons, ih, ih (0#w ||| mask)]
      simp [BitVec.or_assoc]

@[simp]
theorem union_nil : union ([] : List (BitVec w)) = 0#w := rfl

@[simp]
theorem union_cons (mask : BitVec w) : union (mask :: masks) = mask ||| union masks := by
  rw [union, List.foldl_cons, foldl_or]
  simp

theorem union_append (others : List (BitVec w)) :
    union (masks ++ others) = union masks ||| union others := by
  rw [union, List.foldl_append, foldl_or]
  rfl

theorem union_sub : Sub (union masks) c ↔ ∀ mask ∈ masks, Sub mask c := by
  induction masks with
  | nil => simp
  | cons mask rest ih => simp [or_sub, ih]

theorem sub_union {mask : BitVec w} (mem : mask ∈ masks) : Sub mask (union masks) :=
  union_sub.mp (Sub.refl (union masks)) mask mem

theorem union_mono {others : List (BitVec w)} (subset : masks ⊆ others) :
    Sub (union masks) (union others) :=
  union_sub.mpr fun _ mem => sub_union (subset mem)

end BitMask

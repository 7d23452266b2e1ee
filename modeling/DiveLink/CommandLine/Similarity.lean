/-!
# Similar words

How alike two words are: the characters that they share at nearly the same place count for them,
those out of order against them, and a common beginning earns a bonus.

## Main definitions

* `Similarity.shared` — the shared characters, and how many are out of order.
* `Similarity.alike` — whether two words are more alike than eight tenths.
-/

namespace DiveLink.Similarity

/-- The characters that two words share. -/
structure Shared where
  /-- The places in the second word that are taken, the latest first. -/
  taken : List Nat
  /-- How many places come before the place taken last. -/
  disorder : Nat
  deriving DecidableEq, Repr, Inhabited

/-- How far apart two places may be for their characters to count as shared. -/
def reach (a b : List Char) : Nat := max a.length b.length / 2 - 1

/-- Looks for a place of `c`, which stands at place `i` of the first word, in the second word. -/
def Shared.step (range : Nat) (b : List Char) (s : Shared) (c : Char) (i : Nat) : Shared :=
  let fits := fun (p : Char × Nat) =>
    p.1 == c && i - range ≤ p.2 && p.2 ≤ i + range && !s.taken.contains p.2
  match b.zipIdx.find? fits with
  | none => s
  | some (_, j) =>
    ⟨j :: s.taken, if j < s.taken.headD 0 then s.disorder + 1 else s.disorder⟩

/-- The characters that two words share. -/
def shared (a b : List Char) : Shared :=
  let range := reach a b
  a.zipIdx.foldl (fun s p => s.step range b p.1 p.2) ⟨[], 0⟩

/-- The length of the common beginning of two words. -/
def commonStart : List Char → List Char → Nat
  | x :: a, y :: b => if x = y then commonStart a b + 1 else 0
  | _, _ => 0

/-- Whether two words are more alike than eight tenths.  The measure is `n / d`, raised towards one
by a tenth of what is missing for every character of the common beginning. -/
def alike (s t : String) : Bool :=
  let a := s.toList
  let b := t.toList
  let both := shared a b
  let m := both.taken.length
  let n := m * m * b.length + m * m * a.length + (m - both.disorder) * a.length * b.length
  let d := 3 * a.length * b.length * m
  8 * d < 10 * n + commonStart a b * (d - n)

example : alike "Read" "read" ∧ alike "SetInterval" "set-interval" ∧ ¬ alike "frob" "families" := by
  decide +kernel

end DiveLink.Similarity

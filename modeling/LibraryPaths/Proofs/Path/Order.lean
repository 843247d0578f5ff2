import Mathlib.Data.List.Lex
import LibraryPaths.Path.Basic

/-!
# The order of paths

`Path.le` compares the keys of the components (`Path.keys`), lists of lists of numbers, from the left.  So it
is total and transitive, and paths that come no later than each other have the same components.
-/

set_option autoImplicit false

namespace LibraryPaths

theorem Component.key_injective : Function.Injective Component.key := by
  intro c d h
  cases c with
  | name n =>
    cases d with
    | name m =>
      have hbytes : n.map UInt8.toNat = m.map UInt8.toNat := (List.cons.inj h).2
      rw [List.map_injective_iff.2 (fun a b => UInt8.toNat_inj.1) hbytes]
    | _ => cases h
  | _ => cases d <;> first | rfl | cases h

namespace Path

variable {p q r : Path}

/-- What paths are compared by. -/
def keys (p : Path) : List (List Nat) := p.components.map Component.key

theorem components_eq_of_keys_eq (h : p.keys = q.keys) : p.components = q.components :=
  List.map_injective_iff.2 Component.key_injective h

theorem le_iff : p.le q = true ↔ p.keys ≤ q.keys := by
  have hnames : ∀ c d : List Nat, c.lex d Nat.blt = decide (c < d) := by
    intro c d
    rw [List.lex_eq_decide_lex]
    simp only [Nat.blt_eq]
    exact decide_eq_decide.2 Iff.rfl
  unfold le keys
  rw [List.lex_eq_decide_lex, Bool.not_eq_true', decide_eq_false_iff_not, ← not_lt]
  simp only [hnames, decide_eq_true_eq]
  rfl

theorem le_or_ge (p q : Path) : (p.le q || q.le p) = true := by
  rw [Bool.or_eq_true, le_iff, le_iff]
  exact le_total p.keys q.keys

theorem le_of_le_of_le (hpq : p.le q = true) (hqr : q.le r = true) : p.le r = true :=
  le_iff.2 ((le_iff.1 hpq).trans (le_iff.1 hqr))

/-- **Paths that come no later than each other have the same components.** -/
theorem components_eq_of_le (hpq : p.le q = true) (hqp : q.le p = true) :
    p.components = q.components :=
  components_eq_of_keys_eq (le_antisymm (le_iff.1 hpq) (le_iff.1 hqp))

end Path

end LibraryPaths

import Mathlib.Data.Nat.Digits.Defs
import GoXref.Proofs.Host
import GoXref.Proofs.Location
import GoXref.Search

/-!
# `GoXref.Proofs.Host.Run`: texts that are handed to a program

A program that can be started takes any arguments that hold no NUL character
and are not too long. The search tool is handed numbers and paths: a number
that 64 bits can name is always taken, and so is the path of a file that can be
read.

* `Host.Passes`: whether a text can be handed to a program.
* `run_of_passes`, `run_of_not_passes`: runs with arguments.
* `passes_decimal`, `passes_of_read`: numbers and paths.
* `search_of_passes`, `search_of_not_passes`: the search tool.
-/

set_option autoImplicit false

namespace GoXref

namespace Host

/-! ### Arguments -/

/-- Whether a text can be handed to a program. -/
def Passes (t : Text) : Prop := '\x00' ∉ t ∧ Utf8.size t < argumentLimit

instance (t : Text) : Decidable (Passes t) := inferInstanceAs (Decidable (_ ∧ _))

variable {h : Host} {program path : Text} {arguments : List Text} {run : Run}

/-- A program runs exactly if it can be launched, and its name and its arguments
can be handed on. -/
theorem run_eq_ok_iff :
    h.run program arguments = .ok run ↔
      h.launch program = .ok run ∧ ∀ t ∈ program :: arguments, Passes t := by
  -- The two checks, one in front of the start and one behind it, make up one.
  have hpasses : (∀ t ∈ program :: arguments, Passes t) ↔
      (program :: arguments).any (·.contains '\x00') = false ∧
        (program :: arguments).any (fun t => argumentLimit ≤ Utf8.size t) = false := by
    simp only [Passes, forall_and, List.any_eq_false, List.contains_iff_mem, decide_eq_true_eq,
      Nat.not_le]
  rw [hpasses]
  unfold Host.run
  cases (program :: arguments).any (·.contains '\x00') with
  | true => simp
  | false =>
      cases h.launch program with
      | error cause => simp
      | ok run' =>
          cases (program :: arguments).any fun t => argumentLimit ≤ Utf8.size t with
          | true => simp
          | false => simp

/-- If it can be launched but does not run, it is not for want of a program. -/
theorem isNotFound_of_run {cause : SystemError} (hlaunch : h.launch program = .ok run)
    (hrun : h.run program arguments = .error cause) : cause.isNotFound = false := by
  unfold Host.run at hrun
  rw [hlaunch] at hrun
  split at hrun
  · obtain rfl := Except.error.inj hrun
    rfl
  · dsimp only at hrun
    split at hrun
    · obtain rfl := Except.error.inj hrun
      rfl
    · exact nomatch hrun

/-- A program that runs without arguments runs with all that can be handed on. -/
theorem run_of_passes (hrun : h.run program [] = .ok run)
    (harguments : ∀ a ∈ arguments, Passes a) : h.run program arguments = .ok run := by
  obtain ⟨hlaunch, hprogram⟩ := run_eq_ok_iff.mp hrun
  exact run_eq_ok_iff.mpr
    ⟨hlaunch, List.forall_mem_cons.mpr ⟨hprogram program List.mem_cons_self, harguments⟩⟩

/-- With an argument that cannot be handed on it does not run, though it is
there. -/
theorem run_of_not_passes {a : Text} (hrun : h.run program [] = .ok run) (ha : a ∈ arguments)
    (hpasses : ¬ Passes a) :
    ∃ cause, h.run program arguments = .error cause ∧ cause.isNotFound = false := by
  have hlaunch := (run_eq_ok_iff.mp hrun).1
  cases hresult : h.run program arguments with
  | error cause => exact ⟨cause, rfl, isNotFound_of_run hlaunch hresult⟩
  | ok run' =>
      exact absurd ((run_eq_ok_iff.mp hresult).2 a (List.mem_cons_of_mem _ ha)) hpasses

/-! ### Numbers and paths -/

/-- Every number that 64 bits can name can be handed to a program. -/
theorem passes_decimal {n : Nat} (hn : n < 2 ^ 64) : Passes (Text.decimal n) := by
  have hlength : (Text.decimal n).length ≤ 20 :=
    Nat.toDigits_length 10 n 20 (by decide) (Nat.lt_trans hn (by decide))
  have hascii : Utf8.size (Text.decimal n) = (Text.decimal n).length := by
    rw [Utf8.size_eq_length_iff]
    intro c hc
    have hdigit := Location.isDigit_of_mem_decimal hc
    simp only [Char.isDigit, Bool.and_eq_true, decide_eq_true_eq] at hdigit
    have hhi : c.toNat ≤ 0x39 := UInt32.le_iff_toNat_le.mp hdigit.2
    omega
  have hnul : '\x00' ∉ Text.decimal n := fun hmem => nomatch Location.isDigit_of_mem_decimal hmem
  refine ⟨hnul, ?_⟩
  rw [hascii]
  exact Nat.lt_of_le_of_lt hlength (by decide)

/-- The path of a file that can be read can be handed to a program. -/
theorem passes_of_read {content : Bytes} (hread : h.read path = .ok content) : Passes path := by
  obtain ⟨node, hfind, -⟩ := exists_find_of_read hread
  constructor
  · intro hnul
    rw [read, if_pos (List.contains_iff_mem.mpr hnul)] at hread
    exact nomatch hread
  · -- The system takes longer arguments than paths.
    unfold find at hfind
    split at hfind
    · exact nomatch hfind
    · split at hfind
      · exact nomatch hfind
      · rename_i hsize
        exact Nat.lt_trans (Nat.not_le.mp hsize) (by decide)

/-! ### The search tool -/

/-- The search tool is run with the arguments of a query, if they can be handed
on. -/
theorem ran?_search_of_passes {q : Query} (hrun : h.run program [] = .ok run)
    (harguments : ∀ a ∈ q.arguments, Passes a) : (h.search program q).ran? = some q.arguments := by
  rw [search, run_of_passes hrun harguments]

/-- If one cannot, it is not run, and that is its fault. -/
theorem search_of_not_passes {q : Query} {a : Text} (hrun : h.run program [] = .ok run)
    (ha : a ∈ q.arguments) (hpasses : ¬ Passes a) :
    (h.search program q).ran? = none ∧
      ∃ cause, (h.search program q).outcome = .error (.toolFailed program cause) := by
  obtain ⟨cause, hcause, hfound⟩ := run_of_not_passes hrun ha hpasses
  have hsearch : h.search program q
      = ⟨.error (.toolFailed program cause), [Search.announcement program q], none⟩ := by
    simp only [search, hcause, hfound, Bool.false_eq_true, if_false]
  rw [hsearch]
  exact ⟨rfl, cause, rfl⟩

end Host

end GoXref

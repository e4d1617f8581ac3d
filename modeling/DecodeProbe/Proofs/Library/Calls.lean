import DecodeProbe.Library
import DecodeProbe.Proofs.Concat
import Mathlib.Data.List.Induction
import Mathlib.Data.List.Nodup
import Mathlib.Data.List.Pairwise

/-!
# Contexts in calls

A list of calls tells which contexts were asked for, which were made and which were
destroyed.  A context is used when it is passed to the library, and that may happen
only between the call that made it and the one that destroys it.
-/

namespace DecodeProbe

/-! ## Numbers in a call -/

namespace LibraryCall

/-- The number of the context that was asked for. -/
@[simp] def asked? : LibraryCall → Option Nat
  | .create context _ => some context
  | .check .. | .init .. | .reset .. | .destroy .. => none

/-- The number of the context that was made. -/
@[simp] def made? : LibraryCall → Option Nat
  | .create context ret => if ret = successCode then some context else none
  | .check .. | .init .. | .reset .. | .destroy .. => none

/-- The number of the context that was passed to the library. -/
@[simp] def used? : LibraryCall → Option Nat
  | .create .. | .check .. => none
  | .init context .. | .reset context _ | .destroy context _ => some context

@[simp] def destroyed? : LibraryCall → Option Nat
  | .destroy context _ => some context
  | .create .. | .check .. | .init .. | .reset .. => none

theorem made?_eq_none {call : LibraryCall} (hasked : call.asked? = none) : call.made? = none := by
  cases call with
  | create => cases hasked
  | check | init | reset | destroy => rfl

end LibraryCall

/-! ## Numbers in a list of calls -/

namespace Library

def asked (calls : List LibraryCall) : List Nat := calls.filterMap LibraryCall.asked?

def made (calls : List LibraryCall) : List Nat := calls.filterMap LibraryCall.made?

def destroyed (calls : List LibraryCall) : List Nat := calls.filterMap LibraryCall.destroyed?

section

variable {calls : List LibraryCall} {context : Nat} {ret : Int}

theorem mem_made : context ∈ made calls ↔ .create context successCode ∈ calls := by
  rw [made, List.mem_filterMap]
  constructor
  · rintro ⟨call, hmem, hmade⟩
    cases call with
    | create number ret =>
        obtain ⟨rfl, rfl⟩ : ret = successCode ∧ number = context := by simpa using hmade
        exact hmem
    | check | init | reset | destroy => cases hmade
  · intro hmem
    exact ⟨_, hmem, rfl⟩

theorem mem_destroyed : context ∈ destroyed calls ↔ ∃ ret, .destroy context ret ∈ calls := by
  rw [destroyed, List.mem_filterMap]
  constructor
  · rintro ⟨call, hmem, hdestroyed⟩
    cases call with
    | destroy number ret =>
        obtain rfl : number = context := Option.some.inj hdestroyed
        exact ⟨ret, hmem⟩
    | create | check | init | reset => cases hdestroyed
  · rintro ⟨ret, hmem⟩
    exact ⟨_, hmem, rfl⟩

theorem made_sublist_asked (calls : List LibraryCall) : (made calls).Sublist (asked calls) := by
  induction calls with
  | nil => exact .slnil
  | cons call calls ih =>
      cases call with
      | create context ret =>
          by_cases hret : ret = successCode
          · simpa [made, asked, hret] using ih
          · simpa [made, asked, hret] using ih.cons context
      | check | init | reset | destroy => exact ih

theorem eq_of_asked?_eq (hnodup : (asked calls).Nodup) {first second : LibraryCall}
    (hfirst : first ∈ calls) (hsecond : second ∈ calls) (hnumber : first.asked? = some context)
    (hsame : second.asked? = some context) : first = second := by
  by_contra hne
  have hapart := List.pairwise_filterMap.mp hnodup
  have : Std.Symm fun first second : LibraryCall =>
      ∀ number, first.asked? = some number → ∀ other, second.asked? = some other →
        number ≠ other :=
    ⟨fun _ _ hapart number hnumber other hother => (hapart other hother number hnumber).symm⟩
  exact hapart.forall hfirst hsecond hne context hnumber context hsame rfl

theorem notMem_made_of_failed (hnodup : (asked calls).Nodup)
    (hmem : .create context ret ∈ calls) (hret : ret ≠ successCode) : context ∉ made calls := by
  intro hmade
  have heq := eq_of_asked?_eq hnodup hmem (mem_made.mp hmade) rfl rfl
  exact hret (LibraryCall.create.inj heq).2

end

@[simp] theorem asked_concat (calls : List LibraryCall) (call : LibraryCall) :
    asked (calls ++ [call]) = asked calls ++ call.asked?.toList := filterMap_concat ..

@[simp] theorem made_concat (calls : List LibraryCall) (call : LibraryCall) :
    made (calls ++ [call]) = made calls ++ call.made?.toList := filterMap_concat ..

@[simp] theorem destroyed_concat (calls : List LibraryCall) (call : LibraryCall) :
    destroyed (calls ++ [call]) = destroyed calls ++ call.destroyed?.toList := filterMap_concat ..

/-! ## Use -/

/-- Whatever context a call uses has been made before it and not been destroyed. -/
def UsedWhileOpen (calls : List LibraryCall) : Prop :=
  ∀ before call later, calls = before ++ call :: later → ∀ context, call.used? = some context →
    context ∈ made before ∧ context ∉ destroyed before

section

variable {calls : List LibraryCall} {call : LibraryCall} {context : Nat}

theorem usedWhileOpen_nil : UsedWhileOpen [] := by
  intro before call later heq
  simp at heq

theorem usedWhileOpen_concat :
    UsedWhileOpen (calls ++ [call]) ↔ UsedWhileOpen calls ∧
      ∀ context, call.used? = some context → context ∈ made calls ∧ context ∉ destroyed calls := by
  constructor
  · intro hused
    refine ⟨?_, hused calls call [] rfl⟩
    intro before old later heq
    exact hused before old (later ++ [call]) (by simp [heq])
  · rintro ⟨hcalls, hcall⟩ before used later heq
    rcases concat_eq_append_cons_iff.mp heq with ⟨rfl, rfl, -⟩ | ⟨between, hold, -⟩
    · exact hcall
    · exact hcalls before used between hold

theorem UsedWhileOpen.mem_made (hcalls : UsedWhileOpen calls) (hmem : call ∈ calls)
    (hused : call.used? = some context) : context ∈ made calls := by
  obtain ⟨before, later, rfl⟩ := List.append_of_mem hmem
  obtain ⟨hmade, -⟩ := hcalls before call later rfl context hused
  exact Library.mem_made.mpr (List.mem_append_left _ (Library.mem_made.mp hmade))

theorem UsedWhileOpen.nodup_destroyed (hcalls : UsedWhileOpen calls) : (destroyed calls).Nodup := by
  induction calls using List.reverseRecOn with
  | nil => exact List.nodup_nil
  | append_singleton calls call ih =>
      obtain ⟨hbefore, hcall⟩ := usedWhileOpen_concat.mp hcalls
      have hnodup := ih hbefore
      cases call with
      | destroy context ret =>
          obtain ⟨-, hopen⟩ := hcall context rfl
          rw [destroyed_concat, LibraryCall.destroyed?, Option.toList_some, ← List.concat_eq_append]
          exact hnodup.concat hopen
      | create | check | init | reset => simpa using hnodup

end

end Library

end DecodeProbe

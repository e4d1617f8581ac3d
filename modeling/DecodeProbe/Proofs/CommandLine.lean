import DecodeProbe.CommandLine
import Mathlib.Tactic.SplitIfs

/-!
# Asking for an object

Asking for an object in front of arguments that are accepted without asking for
one changes the format and nothing else: the same device is read from them.
-/

namespace DecodeProbe.CommandLine

open DecodeProbe.Text.Utf8 (Bytes)

theorem of_bind_eq_ok {ε α β : Type} {first : Except ε α} {next : α → Except ε β} {answer : β}
    (heq : (first >>= next) = .ok answer) :
    ∃ value, first = .ok value ∧ next value = .ok answer := by
  cases first with
  | error error => cases heq
  | ok value => exact ⟨value, rfl, heq⟩

def Settings.asObject (settings : Settings) : Settings := { settings with json := true }

def Progress.asObject (progress : Progress) : Progress :=
  { progress with settings := progress.settings.asObject }

variable {tool : Tool} {progress later : Progress} {settings : Settings}

/-! ## Accepting a device -/

theorem acceptDevice_asObject (settings : Settings) (value : Bytes) :
    acceptDevice settings.asObject value =
      (acceptDevice settings value).map Settings.asObject := by
  unfold acceptDevice
  split_ifs <;> simp_all [Settings.asObject, Except.map]

theorem json_of_acceptDevice {value : Bytes} {accepted : Settings}
    (haccept : acceptDevice settings value = .ok accepted) : accepted.json = settings.json := by
  unfold acceptDevice at haccept
  split_ifs at haccept
  cases haccept
  rfl

theorem settle_asObject (progress : Progress) :
    settle progress.asObject = (settle progress).map Settings.asObject := by
  cases hpending : progress.pending <;>
    simp [settle, Progress.asObject, hpending, acceptDevice_asObject, Except.map]

theorem json_of_settle (hsettle : settle progress = .ok settings) :
    settings.json = progress.settings.json := by
  unfold settle at hsettle
  split at hsettle
  · cases hsettle
    rfl
  · cases hsettle
  · exact json_of_acceptDevice hsettle

/-! ## One argument -/

/--
What reading one argument comes to: it keeps an object that was asked for, and
asking for one beforehand makes no other difference.  `again` is what is read
after asking.
-/
inductive Kept (progress : Progress) (again : Except UsageError Next) : Next → Prop
  | more {later : Progress}
      (json : progress.settings.json = true → later.settings.json = true)
      (asked : later.settings.json = true ∨ again = .ok (.more later.asObject)) :
      Kept progress again (.more later)
  | help (long : Bool) : Kept progress again (.done (.help long))
  | version : Kept progress again (.done .version)

variable {next : Next}

theorem kept_readFlag {flag : Flag} {attached : Option Bytes} {long : Bool}
    (hread : readFlag progress flag attached long = .ok next) :
    Kept progress (readFlag progress.asObject flag attached long) next := by
  have hobject := settle_asObject progress
  cases attached with
  | none =>
      cases flag with
      | device =>
          obtain ⟨settings, hsettle, hlater⟩ := of_bind_eq_ok hread
          cases hlater
          refine .more (json_of_settle hsettle).trans (.inr ?_)
          rw [readFlag, hobject, hsettle]
          rfl
      | json =>
          obtain ⟨settings, -, hrest⟩ := of_bind_eq_ok hread
          split at hrest
          · cases hrest
          · cases hrest
            exact .more (fun _ => rfl) (.inl rfl)
      | help =>
          obtain ⟨_, -, hdone⟩ := of_bind_eq_ok hread
          cases hdone
          exact .help long
      | version =>
          obtain ⟨_, -, hdone⟩ := of_bind_eq_ok hread
          cases hdone
          exact .version
  | some value =>
      cases flag with
      | device =>
          obtain ⟨settings, hsettle, haccepts⟩ := of_bind_eq_ok hread
          obtain ⟨accepted, haccept, hlater⟩ := of_bind_eq_ok haccepts
          cases hlater
          have hjson := (json_of_acceptDevice haccept).trans (json_of_settle hsettle)
          refine .more hjson.trans (.inr ?_)
          rw [readFlag, hobject, hsettle]
          change (acceptDevice settings.asObject value >>= _) = _
          rw [acceptDevice_asObject, haccept]
          rfl
      | json | help | version => cases hread

theorem kept_readLong {body : Bytes} (hread : readLong tool progress body = .ok next) :
    Kept progress (readLong tool progress.asObject body) next := by
  simp only [readLong] at hread ⊢
  split at hread
  · next flag hflag =>
    simpa only [hflag] using kept_readFlag hread
  · cases hread

theorem kept_readLetters {body : Bytes} (hread : readLetters tool progress body = .ok next) :
    Kept progress (readLetters tool progress.asObject body) next := by
  simp only [readLetters] at hread ⊢
  split at hread
  · split at hread
    · next flag hflag =>
      simpa only [hflag] using kept_readFlag hread
    · cases hread
  · cases hread

theorem kept_readValue {argument : Bytes} (hread : readValue progress argument = .ok next) :
    Kept progress (readValue progress.asObject argument) next := by
  unfold readValue at hread
  split at hread
  · next hpending =>
    cases hread
    refine .more id (.inr ?_)
    simp [readValue, Progress.asObject, hpending]
  · cases hread

theorem kept_readArgument {argument : Bytes}
    (hread : readArgument tool progress argument = .ok next) :
    Kept progress (readArgument tool progress.asObject argument) next := by
  rcases argument with _ | ⟨first, _ | ⟨second, rest⟩⟩
  · exact kept_readValue hread
  · exact kept_readValue hread
  · simp only [readArgument] at hread ⊢
    split_ifs at hread ⊢ with hlong hletters
    · exact kept_readLong hread
    · exact kept_readLetters hread
    · exact kept_readValue hread

/-! ## All arguments -/

theorem of_map_run_eq_ok {read : Except UsageError Settings}
    (heq : Request.run <$> read = .ok (.run settings)) : read = .ok settings := by
  cases read with
  | error error => cases heq
  | ok accepted =>
      cases heq
      rfl

theorem readTrailing_eq_run {rest : List Bytes}
    (hread : readTrailing progress rest = .ok (.run settings)) :
    rest = [] ∧ settle progress = .ok settings := by
  cases rest with
  | nil => exact ⟨rfl, of_map_run_eq_ok hread⟩
  | cons argument rest => cases hread

/-- How a reading that ends in a run begins. -/
theorem readFrom_cons {argument : Bytes} {rest : List Bytes}
    (hread : readFrom tool progress (argument :: rest) = .ok (.run settings)) :
    (argument = [dash, dash] ∧ rest = [] ∧ settle progress = .ok settings) ∨
      argument ≠ [dash, dash] ∧ ∃ later,
        readArgument tool progress argument = .ok (.more later) ∧
          readFrom tool later rest = .ok (.run settings) := by
  unfold readFrom at hread
  split_ifs at hread with hdashes
  · exact .inl ⟨hdashes, readTrailing_eq_run hread⟩
  · obtain ⟨next, hnext, hrest⟩ := of_bind_eq_ok hread
    cases kept_readArgument hnext with
    | more => exact .inr ⟨hdashes, _, hnext, hrest⟩
    | help => cases hrest
    | version => cases hrest

theorem json_of_readFrom {arguments : List Bytes} (hjson : progress.settings.json = true)
    (hread : readFrom tool progress arguments = .ok (.run settings)) : settings.json = true := by
  induction arguments generalizing progress with
  | nil => exact (json_of_settle (of_map_run_eq_ok hread)).trans hjson
  | cons argument rest ih =>
      obtain ⟨-, -, hsettle⟩ | ⟨-, later, hlater, hrest⟩ := readFrom_cons hread
      · exact (json_of_settle hsettle).trans hjson
      · cases kept_readArgument hlater with
        | more hkept => exact ih (hkept hjson) hrest

theorem run_of_settle (hsettle : settle progress = .ok settings) :
    Request.run <$> settle progress.asObject = .ok (.run settings.asObject) := by
  rw [settle_asObject, hsettle]
  rfl

theorem readFrom_asObject {arguments : List Bytes} (hjson : settings.json = false)
    (hread : readFrom tool progress arguments = .ok (.run settings)) :
    readFrom tool progress.asObject arguments = .ok (.run settings.asObject) := by
  induction arguments generalizing progress with
  | nil => exact run_of_settle (of_map_run_eq_ok hread)
  | cons argument rest ih =>
      unfold readFrom
      obtain ⟨rfl, rfl, hsettle⟩ | ⟨hdashes, later, hlater, hrest⟩ := readFrom_cons hread
      · rw [if_pos rfl]
        exact run_of_settle hsettle
      · rw [if_neg hdashes]
        cases kept_readArgument hlater with
        | more _ hasked =>
            -- had this argument asked for an object, the settings would say so
            have hnever : later.settings.json ≠ true := by
              intro hlaterJson
              rw [json_of_readFrom hlaterJson hrest] at hjson
              cases hjson
            rw [hasked.resolve_left hnever]
            exact ih hrest

/-- Accepted arguments that do not ask for an object stay accepted when asking stands first. -/
theorem read_json_cons {arguments : List Bytes} (hjson : settings.json = false)
    (hread : read tool arguments = .ok (.run settings)) :
    read tool (Text.Utf8.bytes "--json" :: arguments) = .ok (.run settings.asObject) := by
  have hfirst : readArgument tool {} (Text.Utf8.bytes "--json") =
      .ok (.more (Progress.asObject {})) := by
    cases tool <;> rfl
  have hdashes : Text.Utf8.bytes "--json" ≠ [dash, dash] := by decide +kernel
  rw [read, readFrom, if_neg hdashes, hfirst]
  exact readFrom_asObject hjson hread

end DecodeProbe.CommandLine

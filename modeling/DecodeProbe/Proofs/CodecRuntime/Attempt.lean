import DecodeProbe.CodecRuntime.Recorded
import DecodeProbe.Proofs.CodecSet

/-!
# Attempts at a codec

Trying a codec ends in one of four ways, and each way has its own block of
calls.  A whole probe makes the blocks of the four codecs one after the other
and then lets go of the runtime.  The blocks can be told apart without looking
past their ends, so the calls of a probe are cut into blocks in one way only.
-/

namespace DecodeProbe

inductive Attempt (χ : Type) where
  | createFailed (ret : Int)
  | checkFailed (context : χ) (ret : Int)
  | initFailed (context : χ) (ret : Int)
  | opened (context : χ)

namespace Attempt

variable {χ : Type}

def calls (codec : Codec) : Attempt χ → List (RuntimeCall χ)
  | .createFailed ret => [.create (.error ret)]
  | .checkFailed context ret => [.create (.ok context), .check codec (.error ret)]
  | .initFailed context ret =>
      [.create (.ok context), .check codec (.ok ()), .init context codec (.error ret)]
  | .opened context =>
      [.create (.ok context), .check codec (.ok ()), .init context codec (.ok ()),
       .reset context, .destroy context]

def opens : Attempt χ → Bool
  | .createFailed _ | .checkFailed .. | .initFailed .. => false
  | .opened _ => true

def context? : Attempt χ → Option χ
  | .createFailed _ => none
  | .checkFailed context _ | .initFailed context _ | .opened context => some context

def found (codecs : CodecSet) (codec : Codec) (attempt : Attempt χ) : CodecSet :=
  if attempt.opens then codecs.insert codec else codecs

theorem contains_found (codecs : CodecSet) (codec other : Codec) (attempt : Attempt χ) :
    (attempt.found codecs codec).contains other =
      (codecs.contains other || decide (codec = other) && attempt.opens) := by
  cases hopens : attempt.opens <;> simp [found, hopens, CodecSet.contains_insert]

theorem foreign_found (codecs : CodecSet) (codec : Codec) (attempt : Attempt χ) :
    (attempt.found codecs codec).foreign = codecs.foreign := by
  cases hopens : attempt.opens <;> simp [found, hopens]

theorem reset_mem_calls (codec : Codec) (attempt : Attempt χ) (context : χ) :
    .reset context ∈ attempt.calls codec ↔
      attempt.opens = true ∧ attempt.context? = some context := by
  cases attempt <;> simp [calls, opens, context?, eq_comm]

theorem destroy_mem_calls (codec : Codec) (attempt : Attempt χ) (context : χ) :
    .destroy context ∈ attempt.calls codec ↔
      attempt.opens = true ∧ attempt.context? = some context := by
  cases attempt <;> simp [calls, opens, context?, eq_comm]

theorem release_notMem_calls (codec : Codec) (attempt : Attempt χ) :
    .release ∉ attempt.calls codec := by
  cases attempt <;> simp [calls]

/-! ## Telling blocks apart -/

theorem calls_append_inj {codec : Codec} {first second : Attempt χ}
    {rest rest' : List (RuntimeCall χ)}
    (heq : first.calls codec ++ rest = second.calls codec ++ rest') :
    first = second ∧ rest = rest' := by
  cases first <;> cases second <;> simp_all [calls]

theorem flatMap_calls_inj {codecs : List Codec} {first second : Codec → Attempt χ}
    {rest rest' : List (RuntimeCall χ)}
    (heq : codecs.flatMap (fun codec => (first codec).calls codec) ++ rest =
      codecs.flatMap (fun codec => (second codec).calls codec) ++ rest') :
    ∀ codec ∈ codecs, first codec = second codec := by
  induction codecs with
  | nil => simp
  | cons head codecs ih =>
      rw [List.flatMap_cons, List.flatMap_cons, List.append_assoc, List.append_assoc] at heq
      obtain ⟨hhead, htail⟩ := calls_append_inj heq
      intro codec hmem
      rcases List.mem_cons.mp hmem with rfl | hcodecs
      · exact hhead
      · exact ih htail codec hcodecs

end Attempt

namespace RuntimeAnswers

open CodecRuntime

variable {σ χ : Type}

/-- What an attempt comes to, with the state that it leaves. -/
def attempt (answers : RuntimeAnswers σ χ) (codec : Codec) (state : σ) : Attempt χ × σ :=
  match answers.create state with
  | (.error ret, created) => (.createFailed ret, created)
  | (.ok context, created) =>
      match answers.check codec created with
      | (.error ret, checked) => (.checkFailed context ret, checked)
      | (.ok (), checked) =>
          match answers.init context codec checked with
          | (.error ret, ready) => (.initFailed context ret, ready)
          | (.ok (), ready) =>
              (.opened context, answers.destroy context (answers.reset context ready))

def attempts (answers : RuntimeAnswers σ χ) : List Codec → σ → List (Codec × Attempt χ)
  | [], _ => []
  | codec :: codecs, state =>
      (codec, (answers.attempt codec state).1) ::
        answers.attempts codecs (answers.attempt codec state).2

@[simp] theorem value_run_recording {α : Type} (answer : σ → α × σ) (call : α → RuntimeCall χ)
    (state : σ) : ((recording answer call).run state).value = answer state := rfl

@[simp] theorem calls_run_recording {α : Type} (answer : σ → α × σ) (call : α → RuntimeCall χ)
    (state : σ) : ((recording answer call).run state).calls = [call (answer state).1] := rfl

theorem run_tryCodec (answers : RuntimeAnswers σ χ) (codecs : CodecSet) (codec : Codec)
    (state : σ) :
    let run := (answers.recorded.tryCodec codecs codec).run state
    run.value = ((answers.attempt codec state).1.found codecs codec,
        (answers.attempt codec state).2) ∧
      run.calls = (answers.attempt codec state).1.calls codec := by
  simp only [tryCodec, recorded, attempt, StateT.run_bind]
  rcases hcreate : answers.create state with ⟨ret | context, created⟩
  · simp [hcreate, Attempt.found, Attempt.opens, Attempt.calls]
  · rcases hcheck : answers.check codec created with ⟨ret | _, checked⟩
    · simp [hcreate, hcheck, Attempt.found, Attempt.opens, Attempt.calls]
    · rcases hinit : answers.init context codec checked with ⟨ret | _, ready⟩ <;>
        simp [hcreate, hcheck, hinit, Attempt.found, Attempt.opens, Attempt.calls]

/-! ## One codec after the other -/

def foundIn (codecs : CodecSet) (tried : List (Codec × Attempt χ)) : CodecSet :=
  tried.foldl (fun found one => one.2.found found one.1) codecs

theorem contains_foundIn (codecs : CodecSet) (tried : List (Codec × Attempt χ)) (codec : Codec) :
    (foundIn codecs tried).contains codec = true ↔
      codecs.contains codec = true ∨ ∃ one ∈ tried, one.1 = codec ∧ one.2.opens = true := by
  induction tried generalizing codecs with
  | nil => simp [foundIn]
  | cons one tried ih =>
      change (foundIn (one.2.found codecs one.1) tried).contains codec = true ↔ _
      rw [ih, Attempt.contains_found]
      simp [or_assoc]

theorem foreign_foundIn (codecs : CodecSet) (tried : List (Codec × Attempt χ)) :
    (foundIn codecs tried).foreign = codecs.foreign := by
  induction tried generalizing codecs with
  | nil => rfl
  | cons one tried ih =>
      change (foundIn (one.2.found codecs one.1) tried).foreign = codecs.foreign
      rw [ih, Attempt.foreign_found]

theorem run_foldlM_tryCodec (answers : RuntimeAnswers σ χ) (tried : List Codec)
    (codecs : CodecSet) (state : σ) :
    let run := (tried.foldlM answers.recorded.tryCodec codecs).run state
    run.value.1 = foundIn codecs (answers.attempts tried state) ∧
      run.calls = (answers.attempts tried state).flatMap fun one => one.2.calls one.1 := by
  induction tried generalizing codecs state with
  | nil => simp [attempts, foundIn]
  | cons codec tried ih =>
      obtain ⟨hvalue, hcalls⟩ := answers.run_tryCodec codecs codec state
      simp only [List.foldlM_cons, StateT.run_bind, Traced.value_bind, Traced.calls_bind, hvalue,
        hcalls]
      obtain ⟨hfound, hlater⟩ := ih ((answers.attempt codec state).1.found codecs codec)
        (answers.attempt codec state).2
      rw [hfound, hlater]
      simp [attempts, foundIn]

/-- The state in which a codec's turn comes. -/
def stateAt (answers : RuntimeAnswers σ χ) (state : σ) (codec : Codec) : σ :=
  (Codec.all.takeWhile (· ≠ codec)).foldl
    (fun state earlier => (answers.attempt earlier state).2) state

def attemptAt (answers : RuntimeAnswers σ χ) (state : σ) (codec : Codec) : Attempt χ :=
  (answers.attempt codec (answers.stateAt state codec)).1

theorem attempts_all (answers : RuntimeAnswers σ χ) (state : σ) :
    answers.attempts Codec.all state =
      Codec.all.map fun codec => (codec, answers.attemptAt state codec) := rfl

theorem value_run_probe (answers : RuntimeAnswers σ χ) (state : σ) :
    ((answers.recorded.probe).run state).value.1 =
      foundIn .empty (answers.attempts Codec.all state) := by
  rw [← (answers.run_foldlM_tryCodec Codec.all .empty state).1]
  simp [probe, StateT.run_bind]

theorem calls_run_probe (answers : RuntimeAnswers σ χ) (state : σ) :
    ((answers.recorded.probe).run state).calls =
      Codec.all.flatMap (fun codec => (answers.attemptAt state codec).calls codec) ++
        [.release] := by
  have hcalls := (answers.run_foldlM_tryCodec Codec.all .empty state).2
  rw [attempts_all, List.flatMap_map] at hcalls
  simp only [probe, StateT.run_bind, Traced.calls_bind, hcalls]
  simp [recorded]

theorem contains_run_probe (answers : RuntimeAnswers σ χ) (state : σ) (codec : Codec) :
    ((answers.recorded.probe).run state).value.1.contains codec = true ↔
      (answers.attemptAt state codec).opens = true := by
  rw [value_run_probe, contains_foundIn, attempts_all]
  simp

/-- The calls of a probe are the blocks of its attempts, and the mask tells which of them opened. -/
theorem probe_in_blocks (answers : RuntimeAnswers σ χ) (state : σ) :
    let run := (answers.recorded.probe).run state
    let found := run.value.1
    let attempt := answers.attemptAt state
    run.calls = Codec.all.flatMap (fun codec => (attempt codec).calls codec) ++ [.release] ∧
      (∀ other : Codec → Attempt χ,
        run.calls = Codec.all.flatMap (fun codec => (other codec).calls codec) ++ [.release] →
        other = attempt) ∧
      (∀ codec, .release ∉ (attempt codec).calls codec) ∧
      (∀ codec, found.contains codec = true ↔ (attempt codec).opens = true) ∧
      found.bits &&& ~~~0xF0 = 0 ∧
      (∀ codec context, .reset context ∈ (attempt codec).calls codec ↔
        found.contains codec = true ∧ (attempt codec).context? = some context) ∧
      (∀ codec context, .destroy context ∈ (attempt codec).calls codec ↔
        found.contains codec = true ∧ (attempt codec).context? = some context) := by
  intro run found attempt
  have hcontains : ∀ codec, found.contains codec = true ↔ (attempt codec).opens = true :=
    answers.contains_run_probe state
  refine ⟨answers.calls_run_probe state, ?_, ?_, hcontains, ?_, ?_, ?_⟩
  · intro other hother
    rw [answers.calls_run_probe state] at hother
    funext codec
    exact (Attempt.flatMap_calls_inj hother codec (Codec.mem_all codec)).symm
  · exact fun codec => Attempt.release_notMem_calls codec _
  · change found.foreign = 0
    rw [show found = _ from answers.value_run_probe state, foreign_foundIn,
      CodecSet.foreign_empty]
  · intro codec context
    rw [hcontains, Attempt.reset_mem_calls]
  · intro codec context
    rw [hcontains, Attempt.destroy_mem_calls]

end RuntimeAnswers

end DecodeProbe

import DecodeProbe.CodecRuntime

/-!
# Recorded runtimes

Any way of answering from a state makes a runtime whose calls are recorded
together with their answers.
-/

namespace DecodeProbe

inductive RuntimeCall (χ : Type) where
  | create (answer : Except Int χ)
  | check (codec : Codec) (answer : Except Int Unit)
  | init (context : χ) (codec : Codec) (answer : Except Int Unit)
  | reset (context : χ)
  | destroy (context : χ)
  | release
  deriving Repr

/-- The answers of a runtime, each with the state that follows it. -/
structure RuntimeAnswers (σ χ : Type) where
  create : σ → Except Int χ × σ
  check : Codec → σ → Except Int Unit × σ
  init : χ → Codec → σ → Except Int Unit × σ
  reset : χ → σ → σ := fun _ state => state
  destroy : χ → σ → σ := fun _ state => state

namespace RuntimeAnswers

variable {σ χ : Type}

def recording {α : Type} (answer : σ → α × σ) (call : α → RuntimeCall χ) :
    Stateful σ (RuntimeCall χ) α := fun state =>
  let given := answer state
  ⟨given, [.call (call given.1)]⟩

def recorded (answers : RuntimeAnswers σ χ) : CodecRuntime σ (RuntimeCall χ) χ where
  create := recording answers.create .create
  check codec := recording (answers.check codec) (.check codec)
  init context codec := recording (answers.init context codec) (.init context codec)
  reset context :=
    recording (fun state => ((), answers.reset context state)) (fun _ => .reset context)
  destroy context :=
    recording (fun state => ((), answers.destroy context state)) (fun _ => .destroy context)
  release := recording (fun state => ((), state)) (fun _ => .release)

end RuntimeAnswers

namespace RuntimeCall

def returned {α : Type} : Except Int α → Int
  | .ok _ => 0
  | .error ret => ret

/-- The calls as lines; contexts are numbered by the calls to create, failed ones included. -/
def lines (created : Nat) : List (RuntimeCall Nat) → List String
  | [] => []
  | .create answer :: rest =>
      s!"create ctx={created + 1} ret={Text.signedDecimal (returned answer)}" ::
        lines (created + 1) rest
  | .check codec answer :: rest =>
      s!"check {codec.name} ret={Text.signedDecimal (returned answer)}" ::
        lines created rest
  | .init context codec answer :: rest =>
      s!"init ctx={context} {codec.name} ret={Text.signedDecimal (returned answer)}" ::
        lines created rest
  | .reset context :: rest => s!"reset ctx={context}" :: lines created rest
  | .destroy context :: rest => s!"destroy ctx={context}" :: lines created rest
  | .release :: rest => "release" :: lines created rest

end RuntimeCall

end DecodeProbe

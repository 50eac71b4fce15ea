import Plugboard.Pipeline.Basic
import Plugboard.Text.Inspected
/-!
# Pipes over text

A catalogue of pipes and destinations whose payload is a string.  Each has a kind and
a text that it works with; a kind that is not in the catalogue passes the payload on.
-/

namespace Plugboard

/-- A kind of text pipe with the text it works with. -/
structure TextPipe where
  kind : String
  text : String

namespace TextPipe

/-- `part` occurs in `whole`. -/
def occursIn (part whole : List Char) : Bool :=
  match whole with
  | [] => part.isEmpty
  | c :: rest => part.isPrefixOf (c :: rest) || occursIn part rest

/-- The index that a failure raised by the catalogue itself names. -/
def namedIndex : Nat := 99

def plainly (message : String) : Except Fault String := .error (.plain message)

/-- The inspected form of the continuation that a pipe receives. -/
def inspectPosition (position : Nat) : String :=
  Text.inspectRecord "Next" [("index", toString position)]

def toPipe (pipe : TextPipe) : Pipe String := fun position payload =>
  let text := pipe.text
  let pass := fun (payload : String) => PipeStep.forward payload id
  let quoting := fun (fault : Fault) => text ++ "<" ++ fault.message ++ ">"
  match pipe.kind with
  | "append" => pass (payload ++ text)
  | "prepend" => pass (text ++ payload)
  | "replace" => pass text
  | "return" => .answer (.ok text)
  | "fail" => .answer (plainly text)
  | "fail_if" =>
    if occursIn text.toList payload.toList then .answer (plainly ("found " ++ text))
    else pass payload
  | "position" => pass (payload ++ toString position ++ inspectPosition position)
  | "after" => .forward payload (fun outcome => outcome.map (· ++ text))
  | "after_fail" => .forward payload (fun outcome => outcome.bind (fun _ => plainly text))
  | "swallow" =>
    .forward payload fun
      | .ok answer => .ok answer
      | .error fault => .ok (quoting fault)
  | "rethrow" =>
    .forward payload fun
      | .ok answer => .ok answer
      | .error fault => plainly (quoting fault)
  | "fail_pipe" => .answer (.error (.attributed (.pipe namedIndex (.plain text))))
  | "fail_dest" => .answer (.error (.attributed (.destination (.plain text))))
  | _ => pass payload

def toDestination (pipe : TextPipe) (payload : String) : Except Fault String :=
  match pipe.kind with
  | "append" => .ok (payload ++ pipe.text)
  | "fail" => plainly pipe.text
  | "fail_pipe" => .error (.attributed (.pipe namedIndex (.plain pipe.text)))
  | _ => .ok payload

end TextPipe

def Pipeline.inspect {α : Type} (pipeline : Pipeline α) : String :=
  Text.inspectRecord "Pipeline"
    [("pipes", toString pipeline.pipes.length),
     ("continue_on_failure", Text.inspectBool pipeline.continueOnFailure)]

end Plugboard

import SessionRecorder.Fault
/-!
# Signatures

The parameters of an operation that is called with arguments by position or by name, and what is
wrong with a call that does not fit.

## Main definitions

* `Signature` — the name of an operation and its parameters.
* `Signature.bind` — the arguments of a call by name, defaults filled in.
* `Signature.bindPositions` — the arguments of a call by position.
-/

namespace SessionRecorder

/-- The parameters of an operation. `implied` parameters come first and are filled in by whoever
calls on behalf of the caller. -/
structure Signature where
  callee : String
  implied : Nat
  required : List String
  optional : List (String × Value)

namespace Signature

/-- Whether the operation has a parameter. -/
def has (sig : Signature) (name : String) : Bool :=
  sig.required.contains name || sig.optional.any (·.1 == name)

/-- The argument of a parameter that may be left out. -/
def argument (given : List (String × Value)) (parameter : String × Value) : String × Value :=
  (parameter.1, (Value.lookup? parameter.1 given).getD parameter.2)

/-- The arguments of a call, one for each parameter in order. -/
def bind (sig : Signature) (given : List (String × Value)) :
    Except Fault (List (String × Value)) :=
  match given.find? fun argument => !sig.has argument.1 with
  | some (name, _) => .error (.unexpectedArgument sig.callee name)
  | none =>
    let missing := sig.required.filter fun name => (Value.lookup? name given).isNone
    if missing.isEmpty then
      .ok (sig.required.filterMap (fun name => (Value.lookup? name given).map (name, ·)) ++
        sig.optional.map (argument given))
    else .error (.missingArguments sig.callee missing)

/-- The arguments of a call by position, the missing ones filled in by defaults. -/
def bindPositions (sig : Signature) (given : List Value) : Except Fault (List Value) :=
  let least := sig.required.length
  let most := least + sig.optional.length
  if most < given.length then
    .error (.argumentCount sig.callee (least + sig.implied) (most + sig.implied)
      (given.length + sig.implied))
  else if given.length < least then
    .error (.missingArguments sig.callee (sig.required.drop given.length))
  else .ok (given ++ (sig.optional.drop (given.length - least)).map (·.2))

end Signature

end SessionRecorder

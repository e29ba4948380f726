import SessionRecorder.Command.Words
import SessionRecorder.Disk
import SessionRecorder.Ini.Interpolation
import SessionRecorder.Json.Reader
import SessionRecorder.Picture.Scan
import SessionRecorder.Value.Display
/-!
# Faults

Everything that can go wrong, by its cause. A fault belongs to a family, by which operations decide
whether they carry on after it, and it has one sentence that describes it.

## Main definitions

* `Fault` — the causes.
* `Fault.family` — the family of a fault.
* `Fault.message` — the sentence for a fault.
-/

namespace SessionRecorder

/-- What kind of thing went wrong. -/
inductive Fault.Family where
  /-- A value was of a kind that an operation does not take. -/
  | kind
  /-- A value lacks an operation. -/
  | operation
  /-- A value was of the right kind and ill-formed. -/
  | form
  /-- A number was out of range. -/
  | range
  /-- More was asked for than can be held. -/
  | memory
  | key
  | index
  | storage
  | command
  /-- The session is in the wrong state, or does not know an event. -/
  | session
  | configuration
  | assertion
  | environment
  | report
  | browser
  | interruption
  | picture
  deriving DecidableEq, Repr

/-- What went wrong. -/
inductive Fault where
  -- Values of the wrong kind
  | operands (operator : String) (left right : Value.Kind)
  | concatenation (left right : Value.Kind)
  | octetConcatenation (right : Value.Kind)
  | repetition (count : Value.Kind)
  | ordering (left right : Value.Kind)
  | joinedItem (index : Nat) (kind : Value.Kind)
  | notIterable (kind : Value.Kind)
  | notReversible (kind : Value.Kind)
  | notSubscriptable (kind : Value.Kind)
  | nameAsIndex (kind : Value.Kind)
  | noOperation (kind : Value.Kind) (operation : String)
  | notOctets (kind : Value.Kind)
  | notWritable (kind : Value.Kind)
  | notInteger (kind : Value.Kind)
  | notNumber (kind : Value.Kind)
  | notPath (kind : Value.Kind)
  | octetsAsPath
  | notHashable (kind : Value.Kind)
  | notJson (kind : Value.Kind)
  | pairExpected (index : Nat)
  | pairLength (index length : Nat)
  | missingArguments (callee : String) (names : List String)
  | unexpectedArgument (callee name : String)
  | argumentCount (callee : String) (least most given : Nat)
  | unrenderable (entry : String)
  | noEvent (shown : String)
  -- Ill-formed values and numbers out of range
  | malformedInteger (text : String)
  | malformedNumber (text : String)
  | tooManyDigits (count : Nat)
  | undefinedInteger
  | infiniteInteger
  | integerTooLarge
  | countTooLarge
  | repetitionTooLong
  | memoryExhausted
  | unknownEntryKind (kind : Value)
  | embeddedNul
  | emptyName (path : Path)
  | encoding (problem : Utf8.Problem)
  | json (problem : Json.Problem)
  | words (problem : Command.Problem)
  | interpolation (problem : Ini.Problem)
  -- Look-up
  | missingKey (key : String)
  | indexOutOfRange
  | emptyPop
  -- The session
  | unknownEvent (type : String)
  | keylessEvent (payload : Value)
  | notRecording (operation : String)
  -- Files, pictures, commands, reports and pages
  | storage (refusal : Disk.Refusal)
  | unknownPicture
  | brokenPicture
  | pictureHeader (problem : Picture.HeaderProblem)
  | pictureTooLarge (pixels : Nat)
  | emptyPicture
  | noHome
  | commandMissing (name : String)
  | commandFailed (argv : List String)
  | commandTimedOut (argv : List String)
  | attachmentRefused
  | pageNotReady
  | launchFailed
  | targetClosed
  | pageCrashed
  | interrupted
  | snapshotDiffers (name percent tolerance actual : String)
  | snapshotResized (name baseline actual : String)

namespace Fault

/-- The family of a fault. -/
def family : Fault → Family
  | .notJson .int => .form
  | .operands .. | .concatenation .. | .octetConcatenation _ | .repetition _ | .ordering ..
  | .joinedItem .. | .notIterable _ | .notReversible _ | .notSubscriptable _ | .nameAsIndex _
  | .notOctets _ | .notWritable _ | .notInteger _ | .notNumber _ | .notPath _ | .octetsAsPath
  | .notHashable _ | .notJson _ | .pairExpected _ | .missingArguments ..
  | .unexpectedArgument .. | .argumentCount .. | .unrenderable _ | .noEvent _ => .kind
  | .noOperation .. => .operation
  | .memoryExhausted | .json (.tooDeep _) => .memory
  | .pairLength .. | .malformedInteger _ | .malformedNumber _ | .tooManyDigits _
  | .undefinedInteger | .unknownEntryKind _ | .embeddedNul | .emptyName _ | .encoding _
  | .json _ | .words _ | .pictureHeader _ => .form
  | .infiniteInteger | .integerTooLarge | .countTooLarge | .repetitionTooLong => .range
  | .interpolation _ => .configuration
  | .missingKey _ => .key
  | .indexOutOfRange | .emptyPop => .index
  | .unknownEvent _ | .keylessEvent _ | .notRecording _ => .session
  | .storage _ | .unknownPicture | .brokenPicture | .commandMissing _ => .storage
  | .emptyPicture | .pictureTooLarge _ => .picture
  | .noHome => .environment
  | .commandFailed _ | .commandTimedOut _ => .command
  | .attachmentRefused => .report
  | .pageNotReady | .launchFailed | .targetClosed | .pageCrashed => .browser
  | .interrupted => .interruption
  | .snapshotDiffers .. | .snapshotResized .. => .assertion

/-- Names in quotes, joined as in a sentence. -/
def nameList : List String → String
  | [] => ""
  | [a] => Text.quoted a
  | [a, b] => Text.quoted a ++ " and " ++ Text.quoted b
  | names =>
    ", ".intercalate (names.dropLast.map Text.quoted) ++ ", and " ++
      Text.quoted (names.getLastD "")

/-- A count of arguments in a sentence. -/
def argumentPhrase (least most : Nat) : String :=
  if least == most then
    toString most ++ (if most == 1 then " positional argument" else " positional arguments")
  else "from " ++ toString least ++ " to " ++ toString most ++ " positional arguments"

/-- The name of a kind in quotes. -/
def kindName (k : Value.Kind) : String :=
  "'" ++ k.name ++ "'"

/-- A list of words as it is displayed. -/
def wordList (words : List String) : String :=
  (Value.list (words.map .str)).display

/-- Why octets are no text. -/
def reasonText : Utf8.Reason → String
  | .badLead => "invalid start byte"
  | .badTail => "invalid continuation byte"
  | .cutShort => "unexpected end of data"

/-- The sentence for octets that are no text. -/
def encodingMessage (p : Utf8.Problem) : String :=
  if p.count == 1 then
    "'utf-8' codec can't decode byte 0x" ++ String.ofList (Text.hexDigits 2 p.octet.toNat) ++
      " in position " ++ toString p.position ++ ": " ++ reasonText p.reason
  else
    "'utf-8' codec can't decode bytes in position " ++ toString p.position ++ "-" ++
      toString (p.position + p.count - 1) ++ ": " ++ reasonText p.reason

/-- The sentence for a numeral with too many digits. -/
def digitsMessage (count : Nat) : String :=
  "Exceeds the limit (" ++ toString Numeral.digitLimit ++
    " digits) for integer string conversion: value has " ++ toString count ++
    " digits; use sys.set_int_max_str_digits() to increase the limit"

/-- The sentence for a text that is no JSON. -/
def jsonMessage : Json.Problem → String
  | .malformed cause line column offset =>
    cause.message ++ ": line " ++ toString line ++ " column " ++ toString column ++
      " (char " ++ toString offset ++ ")"
  | .tooManyDigits count => digitsMessage count
  | .tooDeep container =>
    "maximum recursion depth exceeded while decoding a JSON " ++ container.name ++
      " from a unicode string"

/-- The sentence for a fault. -/
def message : Fault → String
  | .operands operator left right =>
    "unsupported operand type(s) for " ++ operator ++ ": " ++ kindName left ++ " and " ++
      kindName right
  | .concatenation left right =>
    "can only concatenate " ++ left.name ++ " (not \"" ++ right.name ++ "\") to " ++ left.name
  | .octetConcatenation right => "can't concat " ++ right.name ++ " to bytes"
  | .repetition count => "can't multiply sequence by non-int of type " ++ kindName count
  | .ordering left right =>
    "'<=' not supported between instances of " ++ kindName left ++ " and " ++ kindName right
  | .joinedItem index kind =>
    "sequence item " ++ toString index ++ ": expected str instance, " ++ kind.name ++ " found"
  | .notIterable kind => kindName kind ++ " object is not iterable"
  | .notReversible kind => kindName kind ++ " object is not reversible"
  | .notSubscriptable kind => kindName kind ++ " object is not subscriptable"
  | .nameAsIndex .str => "string indices must be integers, not 'str'"
  | .nameAsIndex .bytes => "byte indices must be integers or slices, not str"
  | .nameAsIndex kind => kind.name ++ " indices must be integers or slices, not str"
  | .noOperation kind operation =>
    kindName kind ++ " object has no attribute " ++ Text.quoted operation
  | .notOctets kind => "a bytes-like object is required, not " ++ kindName kind
  | .notWritable kind => "memoryview: a bytes-like object is required, not " ++ kindName kind
  | .notInteger kind =>
    "int() argument must be a string, a bytes-like object or a real number, not " ++
      kindName kind
  | .notNumber kind =>
    "float() argument must be a string or a real number, not " ++ kindName kind
  | .notPath kind => "expected str, bytes or os.PathLike object, not " ++ kind.name
  | .octetsAsPath =>
    "argument should be a str object or an os.PathLike object returning str, not <class 'bytes'>"
  | .notHashable kind => "unhashable type: " ++ kindName kind
  | .notJson .int =>
    "Exceeds the limit (" ++ toString Numeral.digitLimit ++
      " digits) for integer string conversion; use sys.set_int_max_str_digits() to increase the limit"
  | .notJson kind => "Object of type " ++ kind.name ++ " is not JSON serializable"
  | .pairExpected index =>
    "cannot convert dictionary update sequence element #" ++ toString index ++ " to a sequence"
  | .pairLength index length =>
    "dictionary update sequence element #" ++ toString index ++ " has length " ++
      toString length ++ "; 2 is required"
  | .missingArguments callee names =>
    callee ++ "() missing " ++ toString names.length ++ " required positional argument" ++
      (if names.length == 1 then "" else "s") ++ ": " ++ nameList names
  | .unexpectedArgument callee name =>
    callee ++ "() got an unexpected keyword argument " ++ Text.quoted name
  | .argumentCount callee least most given =>
    callee ++ "() takes " ++ argumentPhrase least most ++ " but " ++ toString given ++
      (if given == 1 then " was given" else " were given")
  | .unrenderable entry => "Cannot render action-log entry " ++ entry
  | .noEvent shown => "Unsupported raw event: " ++ shown
  | .malformedInteger text => "invalid literal for int() with base 10: " ++ text
  | .malformedNumber text => "could not convert string to float: " ++ text
  | .tooManyDigits count => digitsMessage count
  | .undefinedInteger => "cannot convert float NaN to integer"
  | .infiniteInteger => "cannot convert float infinity to integer"
  | .integerTooLarge => "int too large to convert to float"
  | .countTooLarge => "cannot fit 'int' into an index-sized integer"
  | .repetitionTooLong => "repeated string is too long"
  | .memoryExhausted => ""
  | .unknownEntryKind kind => "Unknown action-log entry kind " ++ kind.display
  | .embeddedNul => "embedded null byte"
  | .emptyName path => path.display ++ " has an empty name"
  | .encoding problem => encodingMessage problem
  | .json problem => jsonMessage problem
  | .words problem => problem.message
  | .interpolation problem => problem.message
  | .missingKey key => Text.quoted key
  | .indexOutOfRange => "list index out of range"
  | .emptyPop => "pop from empty list"
  | .unknownEvent type => "Unsupported event type " ++ Text.quoted type
  | .keylessEvent payload => "Keyboard payload without key: " ++ payload.display
  | .notRecording operation =>
    "Recording is not in progress; call start() before " ++ operation ++ "()"
  | .storage refusal => refusal.message
  | .unknownPicture => "cannot identify image file <_io.BytesIO object>"
  | .brokenPicture => "Truncated File Read"
  | .pictureHeader problem => problem.message
  | .pictureTooLarge pixels =>
    "Image size (" ++ toString pixels ++ " pixels) exceeds limit of " ++
      toString Picture.mostPixels ++
      " pixels, could be decompression bomb DOS attack."
  | .emptyPicture => "tile cannot extend outside image"
  | .noHome => "Could not determine home directory."
  | .commandMissing name => "[Errno 2] No such file or directory: " ++ Text.quoted name
  | .commandFailed argv => "Command '" ++ wordList argv ++ "' returned non-zero exit status 1."
  | .commandTimedOut argv => "Command '" ++ wordList argv ++ "' timed out after 60 seconds"
  | .attachmentRefused => "attach failed"
  | .pageNotReady => "page not ready"
  | .launchFailed => "Executable doesn't exist"
  | .targetClosed => "Target closed"
  | .pageCrashed => "renderer crashed"
  | .interrupted => ""
  | .snapshotDiffers name percent tolerance actual =>
    "Snapshot '" ++ name ++ "' differs by " ++ percent ++ "% (tolerance " ++ tolerance ++
      "%); actual saved to " ++ actual
  | .snapshotResized name baseline actual =>
    "Snapshot '" ++ name ++ "' size differs from " ++ baseline ++ "; actual saved to " ++ actual

end Fault

end SessionRecorder

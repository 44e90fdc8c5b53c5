import Fabula.Moment
import Fabula.Text.ShellWords
import Fabula.Value.Text
/-!
# Failures

Everything that can go wrong, as causes. Each family of causes has one function that words it.
-/

namespace Fabula

inductive ScriptFault where
  | emptyCondition
  | unknownCondition (keyword : String)
  | emptyEffect
  | unknownEffect (keyword : String)
  | unknownForm (keyword form : String)
  | noText (keyword : String)
  | arity (label : String) (names : List String)
  | notANumber (name word : String)
  | notWhole (name word : String)
  | notTruth (name word : String)
  | noConditionAfter (keyword : String)
  | notOneArgument (keyword : String)
  | choiceWithoutText
  | gotoTarget
  | secondTrigger
  | unexpectedLine (number : Nat) (line : String)
  | noNode (dialogue : String)
  | repeatedNode (node : String)
  | secondSpeaker (node : String)
  | secondGoto (node : String)
  | repeatedChoice (choice node : String)
  | secondChoiceGoto
  | secondIfGoto
  | locationInIf
  | unclosedBlock (keyword : String)
deriving DecidableEq, Repr

def ScriptFault.message : ScriptFault → String
  | .emptyCondition => "Empty condition"
  | .unknownCondition keyword => "Unknown condition type: " ++ keyword
  | .emptyEffect => "Empty effect"
  | .unknownEffect keyword => "Unknown effect keyword: " ++ keyword
  | .unknownForm keyword form =>
    "Unknown " ++ keyword ++ " effect: " ++ (if form == "" then "(missing)" else form)
  | .noText keyword => keyword ++ " needs a value"
  | .arity label names =>
    label ++ " expects " ++ toString names.length ++ " argument(s): " ++ label ++
      String.join (names.map fun name => " <" ++ name ++ ">")
  | .notANumber name word => "Expected a number for '" ++ name ++ "', got '" ++ word ++ "'"
  | .notWhole name word => "Expected a whole number for '" ++ name ++ "', got '" ++ word ++ "'"
  | .notTruth name word => "Expected true or false for '" ++ name ++ "', got '" ++ word ++ "'"
  | .noConditionAfter keyword => keyword ++ " needs a condition"
  | .notOneArgument keyword => keyword ++ " expects exactly one argument"
  | .choiceWithoutText => "CHOICE needs text"
  | .gotoTarget => "GOTO expects a node id or 'location <id>'"
  | .secondTrigger => "Duplicate TRIGGER"
  | .unexpectedLine number line => "Unexpected token at line " ++ toString number ++ ": " ++ line
  | .noNode dialogue => "Dialogue '" ++ dialogue ++ "' has no NODE"
  | .repeatedNode node => "Duplicate node id: " ++ node
  | .secondSpeaker node => "Node '" ++ node ++ "' has more than one speaker line"
  | .secondGoto node => "Node '" ++ node ++ "' has more than one GOTO"
  | .repeatedChoice choice node =>
    "Duplicate choice id '" ++ choice ++ "' in node '" ++ node ++ "'"
  | .secondChoiceGoto => "CHOICE has more than one GOTO"
  | .secondIfGoto => "IF block has more than one GOTO"
  | .locationInIf => "GOTO location is not allowed inside IF"
  | .unclosedBlock keyword => keyword ++ " block opened here is missing its END"

inductive RuleFamily where
  | condition
  | effect
deriving DecidableEq, Repr

inductive FieldFault where
  | unknownKind (family : RuleFamily) (tag : Value)
  | missing (family : RuleFamily) (kind field : String)
  | unsuitable (kind field : String) (value : Value)
deriving Repr

def FieldFault.message : FieldFault → String
  | .unknownKind .condition tag => "Unknown condition type: " ++ tag.quoted
  | .unknownKind .effect tag => "Unknown effect type: " ++ tag.quoted
  | .missing .condition kind field =>
    "Condition " ++ kind ++ " is missing field '" ++ field ++ "'"
  | .missing .effect kind field => "Effect " ++ kind ++ " is missing field '" ++ field ++ "'"
  | .unsuitable kind field value =>
    kind ++ " field '" ++ field ++ "' has an invalid value: " ++ value.quoted

inductive ContentFault where
  | missing (kind field : String) (record : Value)
  | rule (fault : FieldFault)
  | sourceWithoutKey
deriving Repr

def ContentFault.message : ContentFault → String
  | .missing kind field record =>
    kind ++ " record is missing '" ++ field ++ "': " ++ record.quoted
  | .rule fault => fault.message
  | .sourceWithoutKey => "Dialogue source must be keyed by dialogue id"

inductive StateFault where
  | missingKey (key : Key)
  | wrongKind
  | unsuitable
deriving DecidableEq, Repr

def StateFault.message : StateFault → String
  | .missingKey key => Value.keyText key
  | .wrongKind => "a value has the wrong kind"
  | .unsuitable => "a value is not suitable"

inductive SaveFault where
  | notARecord (kind : String)
  | noState
  | malformed (fault : StateFault)
  | notJson
deriving DecidableEq, Repr

def SaveFault.message : SaveFault → String
  | .notARecord kind => "Save data must be a mapping, got " ++ kind
  | .noState => "Save data has no state record"
  | .malformed fault => "Malformed state record: " ++ fault.message
  | .notJson => "Save data is not valid JSON: the text is malformed"

inductive ValueFault where
  | rule (fault : FieldFault)
  | emptyLocale
  | negativeScrollSpeed (given : Value)
  | redirectLimit (given : Value)
  | notANumber
  | tooManyDigits (count : Nat)
  | unwritable
  | notAnInteger (given : Value)
  | pairLength (index length : Nat)
  | eventKind (given : Value)
  | phaseName (given : Value)
  | timestamp (fault : Moment.Fault) (given : String)
  | commandLine (fault : Text.ShellFault)
deriving Repr

def ValueFault.message : ValueFault → String
  | .rule fault => fault.message
  | .emptyLocale => "default_locale must not be empty"
  | .negativeScrollSpeed given => "interlude_scroll_speed must be >= 0, got " ++ given.display
  | .redirectLimit given => "max_dialogue_redirects must be >= 1, got " ++ given.display
  | .notANumber => "cannot convert float NaN to integer"
  | .tooManyDigits count =>
    "Exceeds the limit (4300 digits) for integer string conversion: value has " ++
      toString count ++ " digits; use sys.set_int_max_str_digits() to increase the limit"
  | .unwritable =>
    "Exceeds the limit (4300 digits) for integer string conversion; " ++
      "use sys.set_int_max_str_digits() to increase the limit"
  | .notAnInteger given =>
    "invalid literal for int() with base 10: " ++ String.ofList (given.quoted.toList.take 200)
  | .pairLength index length =>
    "dictionary update sequence element #" ++ toString index ++ " has length " ++
      toString length ++ "; 2 is required"
  | .eventKind given => given.quoted ++ " is not a valid EventType"
  | .phaseName given => given.quoted ++ " is not a valid DialoguePhase"
  | .timestamp fault given => fault.message given
  | .commandLine .openQuotation => "No closing quotation"
  | .commandLine .danglingEscape => "No escaped character"

inductive Failure where
  /-- A script or an expression is refused, at a line if it has one. Lines are counted from one in
  a script and called anything by whoever compiles an expression. -/
  | script (fault : ScriptFault) (line : Option Value)
  | content (fault : ContentFault)
  | save (fault : SaveFault)
  | unsuitable (fault : ValueFault)
  | missingKey (key : Key)
  | transition (trigger source target : String)
  /-- A named part is asked of a value that has no named parts. -/
  | noParts
  /-- A value is of a kind that cannot be listed, ordered, computed with or stored under. -/
  | wrongKind
  /-- An integer is too large to meet a float, or an infinity has no whole part. -/
  | tooLarge
deriving Repr

namespace Failure

def message : Failure → String
  | .script fault (some line) => "line " ++ line.display ++ ": " ++ fault.message
  | .script fault none => fault.message
  | .content fault => fault.message
  | .save fault => fault.message
  | .unsuitable fault => fault.message
  | .missingKey key => Value.keyText key
  | .transition trigger source target =>
    "Invalid transition: '" ++ trigger ++ "' cannot move from '" ++ source ++ "' to '" ++
      target ++ "'"
  | .noParts => "a named part is asked of a value without named parts"
  | .wrongKind => "a value has the wrong kind"
  | .tooLarge => "a number is too large"

def ofNumber : Number.Fault → Failure
  | .tooLarge => .tooLarge
  | .notANumber => .unsuitable .notANumber
  | .tooManyDigits count => .unsuitable (.tooManyDigits count)

end Failure

instance : MonadLift (Except Number.Fault) (Except Failure) where
  monadLift
    | .ok a => .ok a
    | .error fault => .error (.ofNumber fault)

end Fabula

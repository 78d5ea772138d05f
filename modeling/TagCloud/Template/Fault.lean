import TagCloud.Seed
import TagCloud.Text.Quoted

/-!
# What goes wrong in an expression

An expression that can be read may still have no value: an operator is applied to what it is not
for, a function is called with too much or too little, a number cannot be had. The causes are told
apart here and worded in one place. Kinds of values stand in them by the names that messages show.
-/

namespace TagCloud.Template

/-!
## What goes wrong in a call

A call is refused before the function runs if its arguments do not fit the parameters. Functions
that come with the values word that in a shorter way than others do.
-/

/-- Why a call is refused before the function runs. -/
inductive CallFault where
  | notCallable (kind : String)
  | unbound (owner name : String)
  | wrongReceiver (owner name kind : String)
  | noReceiver (owner name : String)
  | foreignReceiver (owner name kind : String)
  | strangeReceiver
  | unknownKeyword (function name : String)
  | givenTwice (function name : String)
  | onlyByPlace (function : String) (names : List String)
  | repeated (function name : String)
  | tooMany (function : String) (least most given : Nat)
  | tooFew (function : String) (names : List String)
  | noKeywords (function : String)
  | noArguments (function : String) (given : Nat)
  | exactlyOne (function : String) (given : Nat)
  | expected (wanted given : Nat)
  | exactly (function : String) (wanted given : Nat)
  | atLeast (function : String) (least given : Nat)
  | atMost (function : String) (most given : Nat)
  | countedLeast (function : String) (least given : Nat)
  | countedMost (function : String) (most given : Nat) (byName : Bool)
  | placedMost (function : String) (most given : Nat)
  | invalidName (function name : String)
  | givenByBoth (function name : String) (place : Nat)
  | missing (function name : String) (place : Nat)
  | nothingByPlace (function : String)
  | spread (kind : String)
  | spreadNamed (function kind : String)
  | keywordKind
  | mixed
  deriving Repr, DecidableEq

/-- The names of missing arguments in a row. -/
def namedRow : List String → String
  | [] => ""
  | [name] => "'" ++ name ++ "'"
  | [first, last] => "'" ++ first ++ "' and '" ++ last ++ "'"
  | first :: second :: [last] => "'" ++ first ++ "', '" ++ second ++ "', and '" ++ last ++ "'"
  | first :: rest => "'" ++ first ++ "', " ++ namedRow rest

/-- A noun that is plural unless the count is one. -/
def plural (n : Nat) (noun : String) : String :=
  noun ++ (if n = 1 then "" else "s")

/-- A count with a noun. -/
def counted (n : Nat) (noun : String) : String :=
  toString n ++ " " ++ plural n noun

/-- The text shown for a call that is refused. -/
def CallFault.message : CallFault → String
  | .notCallable kind => "'" ++ kind ++ "' object is not callable"
  | .unbound owner name => "unbound method " ++ owner ++ "." ++ name ++ "() needs an argument"
  | .wrongReceiver owner name kind =>
    "descriptor '" ++ name ++ "' for '" ++ owner ++ "' objects doesn't apply to a '" ++ kind
      ++ "' object"
  | .noReceiver owner name =>
    "descriptor '" ++ name ++ "' of '" ++ owner ++ "' object needs an argument"
  | .foreignReceiver owner name kind =>
    "descriptor '" ++ name ++ "' requires a '" ++ owner ++ "' object but received a '" ++ kind
      ++ "'"
  | .strangeReceiver => "super(type, obj): obj must be an instance or subtype of type"
  | .unknownKeyword function name =>
    function ++ "() got an unexpected keyword argument '" ++ name ++ "'"
  | .givenTwice function name =>
    function ++ "() got multiple values for argument '" ++ name ++ "'"
  | .onlyByPlace function names =>
    function ++ "() got some positional-only arguments passed as keyword arguments: '"
      ++ ", ".intercalate names ++ "'"
  | .repeated function name =>
    function ++ "() got multiple values for keyword argument '" ++ name ++ "'"
  | .tooMany function least most given =>
    function ++ "() takes "
      ++ (if least < most then "from " ++ toString least ++ " to " ++ toString most
            ++ " positional arguments"
          else counted most "positional argument")
      ++ " but " ++ toString given ++ (if given = 1 then " was" else " were") ++ " given"
  | .tooFew function names =>
    function ++ "() missing " ++ toString names.length ++ " required positional argument"
      ++ (if names.length = 1 then "" else "s") ++ ": " ++ namedRow names
  | .noKeywords function => function ++ "() takes no keyword arguments"
  | .noArguments function given =>
    function ++ "() takes no arguments (" ++ toString given ++ " given)"
  | .exactlyOne function given =>
    function ++ "() takes exactly one argument (" ++ toString given ++ " given)"
  | .expected wanted given =>
    "expected " ++ counted wanted "argument" ++ ", got " ++ toString given
  | .exactly function wanted given =>
    function ++ " expected " ++ counted wanted "argument" ++ ", got " ++ toString given
  | .atLeast function least given =>
    function ++ " expected at least " ++ counted least "argument" ++ ", got " ++ toString given
  | .atMost function most given =>
    function ++ " expected at most " ++ counted most "argument" ++ ", got " ++ toString given
  | .countedLeast function least given =>
    function ++ "() takes at least " ++ counted least "argument" ++ " (" ++ toString given ++
      " given)"
  | .countedMost function most given byName =>
    function ++ "() takes at most " ++ toString most ++ (if byName then " keyword" else "")
      ++ plural most " argument" ++ " (" ++ toString given ++ " given)"
  | .placedMost function most given =>
    function ++ "() takes at most " ++ counted most "positional argument" ++ " ("
      ++ toString given ++ " given)"
  | .invalidName function name =>
    "'" ++ name ++ "' is an invalid keyword argument for " ++ function ++ "()"
  | .givenByBoth function name place =>
    "argument for " ++ function ++ "() given by name ('" ++ name ++ "') and position ("
      ++ toString place ++ ")"
  | .missing function name place =>
    function ++ "() missing required argument '" ++ name ++ "' (pos " ++ toString place ++ ")"
  | .nothingByPlace function => function ++ "() takes no positional arguments"
  | .spread kind => "Value after * must be an iterable, not " ++ kind
  | .spreadNamed function kind =>
    function ++ "() argument after ** must be a mapping, not " ++ kind
  | .keywordKind => "keywords must be strings"
  | .mixed => "can't handle positional and keyword arguments at the same time"

/-!
## What goes wrong in a filter

Filters refuse arguments that they have no use for, and values that they can make nothing of.
`wrong` collects what is the matter with the way a filter is applied.
-/

/-- The ways in which a filter can be applied wrongly. -/
inductive WrongFilter where
  | notReversed
  | sortedBy
  | roundMethod
  | nothingToMap
  | strangeKeyword (shown : String)
  | noAttributeName
  | scheme (shown : String)
  deriving Repr, DecidableEq

/-- The text shown for a filter that is applied wrongly. -/
def WrongFilter.message : WrongFilter → String
  | .notReversed => "argument must be iterable"
  | .sortedBy => "You can only sort by either \"key\" or \"value\""
  | .roundMethod => "method must be common, ceil or floor"
  | .nothingToMap => "map requires a filter argument"
  | .strangeKeyword shown => "Unexpected keyword argument " ++ shown
  | .noAttributeName => "Missing parameter for attribute name"
  | .scheme shown => shown ++ " is not a valid URI scheme prefix."

/-- Why a filter gives no value. -/
inductive FilterFault where
  | wrong (e : WrongFilter)
  | expected (what least found : String)
  | notPairs
  | sumStart (what other : String)
  | noRounding (kind : String)
  | unpacked (kind : String)
  | patternWanted (kind : String)
  | textPattern
  | notWritten (kind : String)
  | keyKind (kind : String)
  | wrapWidth (shown : String)
  | unpackedSize (size : Nat)
  | attributeName (shown : String)
  deriving Repr, DecidableEq

/-- The text shown for a filter that gives no value. -/
def FilterFault.message : FilterFault → String
  | .wrong e => e.message
  | .expected what least found => "expected " ++ what ++ " >= " ++ least ++ ", got " ++ found
  | .notPairs => "Can only get item pairs from a mapping."
  | .sumStart what other => "sum() can't sum " ++ what ++ " [use " ++ other ++ " instead]"
  | .noRounding kind => "type " ++ kind ++ " doesn't define __round__ method"
  | .unpacked kind => "cannot unpack non-iterable " ++ kind ++ " object"
  | .patternWanted kind => "expected string or bytes-like object, got '" ++ kind ++ "'"
  | .textPattern => "cannot use a string pattern on a bytes-like object"
  | .notWritten kind => "Object of type " ++ kind ++ " is not JSON serializable"
  | .keyKind kind => "keys must be str, int, float, bool or None, not " ++ kind
  | .wrapWidth shown => "invalid width " ++ shown ++ " (must be > 0)"
  | .unpackedSize size =>
    if size < 2 then "not enough values to unpack (expected 2, got " ++ toString size ++ ")"
    else "too many values to unpack (expected 2)"
  | .attributeName shown => "Invalid character in attribute name: " ++ shown

/-!
## What goes wrong in formatting

A text with fields may be malformed, a field may name what is not there, and a specification may ask
for what the value to be written does not allow.
-/

/-- Why a value cannot be written as a specification asks. -/
inductive LayoutFault where
  | tooManyDigits
  | noPrecision
  | malformed (text kind : String)
  | bothSeparators
  | separator (mark letter : Char)
  | code (letter : Char) (kind : String)
  | signInText (blank : Bool)
  | zeroInText
  | alternateInText
  | insideInText
  | zerosInComplex
  | insideInComplex
  | precisionInWhole
  | zeroInWhole
  | signInCharacter
  | alternateInCharacter
  | characterRange
  | longRange
  | precisionRange
  | notForKind (kind : String)
  deriving Repr, DecidableEq

/-- A character in a message: itself, or its number when it cannot be seen. -/
def codeText (c : Char) : String :=
  if 32 < c.toNat && c.toNat < 128 then c.toString
  else "\\x" ++ String.ofList (Nat.toDigits 16 c.toNat)

/-- The text shown for a specification that cannot be followed. -/
def LayoutFault.message : LayoutFault → String
  | .tooManyDigits => "Too many decimal digits in format string"
  | .noPrecision => "Format specifier missing precision"
  | .malformed text kind =>
    "Invalid format specifier '" ++ text ++ "' for object of type '" ++ kind ++ "'"
  | .bothSeparators => "Cannot specify both ',' and '_'."
  | .separator mark letter =>
    "Cannot specify '" ++ mark.toString ++ "' with '" ++ codeText letter ++ "'."
  | .code letter kind =>
    "Unknown format code '" ++ codeText letter ++ "' for object of type '" ++ kind ++ "'"
  | .signInText blank =>
    (if blank then "Space" else "Sign") ++ " not allowed in string format specifier"
  | .zeroInText => "Negative zero coercion (z) not allowed in string format specifier"
  | .alternateInText => "Alternate form (#) not allowed in string format specifier"
  | .insideInText => "'=' alignment not allowed in string format specifier"
  | .zerosInComplex => "Zero padding is not allowed in complex format specifier"
  | .insideInComplex => "'=' alignment flag is not allowed in complex format specifier"
  | .precisionInWhole => "Precision not allowed in integer format specifier"
  | .zeroInWhole => "Negative zero coercion (z) not allowed in integer format specifier"
  | .signInCharacter => "Sign not allowed with integer format specifier 'c'"
  | .alternateInCharacter => "Alternate form (#) not allowed with integer format specifier 'c'"
  | .characterRange => "%c arg not in range(0x110000)"
  | .longRange => "Python int too large to convert to C long"
  | .precisionRange => "precision too big"
  | .notForKind kind => "unsupported format string passed to " ++ kind ++ ".__format__"

/-- Why the fields of a text cannot be filled. -/
inductive FieldFault where
  | lonelyOpening
  | lonelyClosing
  | openingInName
  | unclosed
  | noConversion
  | behindConversion
  | unclosedSpecification
  | conversion (c : Char)
  | tooDeep
  | toManual
  | toAutomatic
  | emptyPart
  | behindBracket
  | openBracket
  | noArgument (place : Nat)
  | noPlace
  | positional
  | markupSpecification
  deriving Repr, DecidableEq

/-- The text shown for fields that cannot be filled. -/
def FieldFault.message : FieldFault → String
  | .lonelyOpening => "Single '\x7b' encountered in format string"
  | .lonelyClosing => "Single '\x7d' encountered in format string"
  | .openingInName => "unexpected '\x7b' in field name"
  | .unclosed => "expected '\x7d' before end of string"
  | .noConversion => "end of string while looking for conversion specifier"
  | .behindConversion => "expected ':' after conversion specifier"
  | .unclosedSpecification => "unmatched '\x7b' in format spec"
  | .conversion c => "Unknown conversion specifier " ++ codeText c
  | .tooDeep => "Max string recursion exceeded"
  | .toManual =>
    "cannot switch from automatic field numbering to manual field specification"
  | .toAutomatic =>
    "cannot switch from manual field specification to automatic field numbering"
  | .emptyPart => "Empty attribute in format string"
  | .behindBracket => "Only '.' or '[' may follow ']' in format field specifier"
  | .openBracket => "Missing ']' in format string"
  | .noArgument place =>
    "Replacement index " ++ toString place ++ " out of range for positional args tuple"
  | .noPlace => "tuple index out of range"
  | .positional => "Format string contains positional fields"
  | .markupSpecification => "Unsupported format specification for Markup."

/-!
## What goes wrong in making a value

The classes of values make values from others, which have to spell what is wanted. A whole number
may be spelled in a base of its own; texts and bytes may be made from each other in some encoding.
Of some classes no values can be made, and filler text wants bounds that leave a choice.
-/

/-- Why a class makes no value. -/
inductive MakingFault where
  | noNumeral
  | numeralWanted
  | base
  | malformed (base : Int) (shown : String)
  | decodedTwice
  | decoded (kind : String)
  | complexPart (place kind : String)
  | textPart
  | behindText
  | malformedComplex
  | strangeComplex (shown : String)
  | encodingWanted
  | textWanted (what : String)
  | negativeCount
  | count
  | nothingTaken (kind : String)
  | notMade (kind : String)
  | oneOrThree
  | notMapping (kind : String)
  | notCallable
  | noInstance
  | newWithout (kind : String)
  | newOfNoType (kind found : String)
  | newOfOther (kind other : String)
  | newOfForeign
  | subclassOfNoType
  | unevenBound (which : String)
  | noChoice (bounds : String)
  deriving Repr, DecidableEq

namespace MakingFault

/-- The text shown for a class that makes no value. -/
def message : MakingFault → String
  | noNumeral => "int() missing string argument"
  | numeralWanted => "int() can't convert non-string with explicit base"
  | base => "int() base must be >= 2 and <= 36, or 0"
  | malformed radix shown =>
    "invalid literal for int() with base " ++ toString radix ++ ": " ++ shown
  | decodedTwice => "decoding str is not supported"
  | decoded kind => "decoding to str: need a bytes-like object, " ++ kind ++ " found"
  | complexPart place kind =>
    "complex() " ++ place ++ " argument must be "
      ++ (if place = "first" then "a string or a number" else "a number")
      ++ ", not '" ++ kind ++ "'"
  | textPart => "complex() second arg can't be a string"
  | behindText => "complex() can't take second arg if first is a string"
  | malformedComplex => "complex() arg is a malformed string"
  | strangeComplex shown => "could not convert string to complex: " ++ shown
  | encodingWanted => "string argument without an encoding"
  | textWanted what => what ++ " without a string argument"
  | negativeCount => "negative count"
  | count => "cannot fit 'int' into an index-sized integer"
  | nothingTaken kind => kind ++ " takes no arguments"
  | notMade kind => "cannot create '" ++ kind ++ "' instances"
  | notMapping kind => "mappingproxy() argument must be a mapping, not " ++ kind
  | notCallable => "first argument must be callable"
  | noInstance => "instance must not be None"
  | oneOrThree => "type() takes 1 or 3 arguments"
  | newWithout kind => kind ++ ".__new__(): not enough arguments"
  | newOfNoType kind found =>
    kind ++ ".__new__(X): X is not a type object (" ++ found ++ ")"
  | newOfOther kind other =>
    kind ++ ".__new__(" ++ other ++ "): " ++ other ++ " is not a subtype of " ++ kind
  | newOfForeign => "super(type, obj): obj must be an instance or subtype of type"
  | subclassOfNoType => "issubclass() arg 1 must be a class"
  | unevenBound which => "non-integer " ++ which ++ " for randrange()"
  | noChoice bounds => "empty range for randrange()" ++ bounds

/-- A fault that lies in the kinds of values and not in the values themselves. -/
def isAboutKinds : MakingFault → Bool
  | base | malformed .. | malformedComplex | strangeComplex _ | negativeCount | count
  | unevenBound _ | noChoice _ => false
  | _ => true

end MakingFault

/-!
## What goes wrong in a method

The methods of values refuse arguments that are not of the kind they want, report what they do not
find, and cannot write every text in every encoding.
-/

/-- Why a method gives no value: `wanted` and what follows it are about the kinds of arguments,
`notFound` and what follows it about their values. -/
inductive MethodFault where
  | wanted (what kind : String)
  | padding (method : String)
  | fillWidth
  | notJoinable
  | joinedItem (place : Nat) (kind : String)
  | joinedBytes (place : Nat) (kind : String)
  | mapped
  | unrecoverable
  | unrecoverableOf (encoding : String)
  | textWanted
  | noBytes (kind : String)
  | lonelyTable
  | tableText
  | tableKey
  | pairKind (place : Nat)
  | notFound (what : String)
  | changedMeanwhile
  | unstarted
  | notReduced (kind : String)
  | emptySeparator
  | hexSeparator (what : String)
  | noHexDigit (place : Nat)
  | mappedRange
  | tableLengths
  | tableKeyLength
  | pairLength (place size : Nat)
  | byteOrder
  | negativeLength
  | malformedReal
  | noRatio
  | bytesRange
  | infiniteRatio
  | negativeBytes
  | longBytes
  | realRange
  | emptyList
  | encoding (name : String)
  | handler (name : String)
  | handlerOf (doing encoding name : String)
  | textless (doing name : String)
  | nullCharacter
  | coding (reason : String)
  | codingRow (shown : String)
  | codingOf (doing encoding reason : String)
  | unencodable (codec : String) (first : Char) (start stop : Nat) (reason : String)
  | undecodable (message : String)
  deriving Repr, DecidableEq

/-- A character in a message by its number. -/
def numberedChar (c : Char) : String :=
  String.ofList (Text.numberEscape c)

/-- What is said of a way that handles characters and is asked to handle bytes. -/
def unrecovered : String :=
  "don't know how to handle UnicodeDecodeError in error callback"

/-- The text shown for a method that gives no value. -/
def MethodFault.message : MethodFault → String
  | .wanted what kind => what ++ ", not " ++ kind
  | .padding method => method ++ " arg must be None or str"
  | .fillWidth => "The fill character must be exactly one character long"
  | .notJoinable => "can only join an iterable"
  | .joinedItem place kind =>
    "sequence item " ++ toString place ++ ": expected str instance, " ++ kind ++ " found"
  | .joinedBytes place kind =>
    "sequence item " ++ toString place ++ ": expected a bytes-like object, " ++ kind ++ " found"
  | .mapped => "character mapping must return integer, None or str"
  | .unrecoverable => unrecovered
  | .unrecoverableOf codec =>
    "decoding with '" ++ codec ++ "' codec failed (TypeError: " ++ unrecovered ++ ")"
  | .textWanted => "bad argument type for built-in operation"
  | .noBytes kind => "cannot convert '" ++ kind ++ "' object to bytes"
  | .lonelyTable => "if you give only one argument to maketrans it must be a dict"
  | .tableText =>
    "first maketrans argument must be a string if there is a second argument"
  | .tableKey => "keys in translate table must be strings or integers"
  | .pairKind place =>
    "cannot convert dictionary update sequence element #" ++ toString place ++ " to a sequence"
  | .notFound what => what
  | .notReduced kind => "cannot pickle '" ++ kind ++ "' object"
  | .unstarted => "can't send non-None value to a just-started generator"
  | .changedMeanwhile => "list modified during sort"
  | .emptySeparator => "empty separator"
  | .noHexDigit place =>
    "non-hexadecimal number found in fromhex() arg at position " ++ toString place
  | .hexSeparator what => "sep must be " ++ what ++ "."
  | .mappedRange => "character mapping must be in range(0x110000)"
  | .tableLengths => "the first two maketrans arguments must have equal length"
  | .tableKeyLength => "string keys in translate table must be of length 1"
  | .pairLength place size =>
    "dictionary update sequence element #" ++ toString place ++ " has length " ++ toString size
      ++ "; 2 is required"
  | .byteOrder => "byteorder must be either 'little' or 'big'"
  | .negativeLength => "length argument must be non-negative"
  | .malformedReal => "invalid hexadecimal floating-point string"
  | .noRatio => "cannot convert NaN to integer ratio"
  | .bytesRange => "bytes must be in range(0, 256)"
  | .infiniteRatio => "cannot convert Infinity to integer ratio"
  | .negativeBytes => "can't convert negative int to unsigned"
  | .longBytes => "int too big to convert"
  | .realRange => "hexadecimal value too large to represent as a float"
  | .emptyList => "pop from empty list"
  | .encoding name => "unknown encoding: " ++ name
  | .handler name => "unknown error handler name '" ++ name ++ "'"
  | .handlerOf doing codec name =>
    doing ++ " with '" ++ codec ++ "' codec failed (LookupError: unknown error handler name '"
      ++ name ++ "')"
  | .textless doing name =>
    "'" ++ name ++ "' is not a text encoding; use codecs." ++ doing
      ++ "() to handle arbitrary codecs"
  | .nullCharacter => "embedded null character"
  | .coding reason | .codingRow reason => reason
  | .codingOf doing codec reason =>
    doing ++ " with '" ++ codec ++ "' codec failed (UnicodeError: " ++ reason ++ ")"
  | .unencodable codec first start stop reason =>
    "'" ++ codec ++ "' codec can't encode character"
      ++ (if stop = start + 1 then " '" ++ numberedChar first ++ "' in position " ++ toString start
          else "s in position " ++ toString start ++ "-" ++ toString (stop - 1))
      ++ ": " ++ reason
  | .undecodable message => message

/-!
## What goes wrong in an operator

An operator is for operands of some kinds only, and of those not for all: nothing can be divided by
zero, and no result can be larger than the numbers that there are. Kinds of values stand in the
causes by the names that messages show.
-/

/-- Why an operator gives no value. -/
inductive OperatorFault where
  | operands (operator left right : String)
  | operand (operator kind : String)
  | size (kind : String)
  | concatenation (wanted found : String)
  | bytesConcatenation (found : String)
  | repetition (kind : String)
  | timesRange
  | order (operator left right : String)
  | membership (kind : String)
  | membershipInText (kind : String)
  | zeroDivisor (what : String)
  | zeroPower
  | zeroModulus
  | noInverse
  | modulusKind
  | shift
  | powerRange
  | complexZeroPower
  | complexPowerRange
  | quotientRange
  | roundedRange
  | floatRange
  deriving Repr, DecidableEq

/-- The text shown for an operator that gives no value. -/
def OperatorFault.message : OperatorFault → String
  | .operands operator left right =>
    "unsupported operand type(s) for " ++ operator ++ ": '" ++ left ++ "' and '" ++ right ++ "'"
  | .operand operator kind =>
    "bad operand type for unary " ++ operator ++ ": '" ++ kind ++ "'"
  | .size kind => "bad operand type for abs(): '" ++ kind ++ "'"
  | .concatenation wanted found =>
    "can only concatenate " ++ wanted ++ " (not \"" ++ found ++ "\") to " ++ wanted
  | .bytesConcatenation found => "can't concat " ++ found ++ " to bytes"
  | .timesRange => "cannot fit 'int' into an index-sized integer"
  | .repetition kind => "can't multiply sequence by non-int of type '" ++ kind ++ "'"
  | .order operator left right =>
    "'" ++ operator ++ "' not supported between instances of '" ++ left ++ "' and '" ++ right ++ "'"
  | .membership kind => "argument of type '" ++ kind ++ "' is not iterable"
  | .membershipInText kind => "'in <string>' requires string as left operand, not " ++ kind
  | .zeroDivisor what => what
  | .zeroModulus => "pow() 3rd argument cannot be 0"
  | .noInverse => "base is not invertible for the given modulus"
  | .modulusKind => "pow() 3rd argument not allowed unless all arguments are integers"
  | .shift => "negative shift count"
  | .zeroPower => "0.0 cannot be raised to a negative power"
  | .complexZeroPower => "0.0 to a negative or complex power"
  | .complexPowerRange => "complex exponentiation"
  | .powerRange => "(34, 'Numerical result out of range')"
  | .quotientRange => "integer division result too large for a float"
  | .roundedRange => "rounded value too large to represent"
  | .floatRange => "int too large to convert to float"

/-!
## What goes wrong in a pattern

A pattern with placeholders may be incomplete, ask for more values than there are or for fewer, or
for values of another kind.
-/

/-- Why the text with placeholders gives no text. -/
inductive PatternFault where
  | tooFew
  | tooMany (inBytes : Bool)
  | noMapping
  | incompleteKey
  | incomplete
  | wantsNumber (letter : Char) (kind : String)
  | wantsInteger (letter : Char) (kind : String)
  | wantsReal (inBytes : Bool) (kind : String)
  | wantsBytes (kind : String)
  | wantsByte
  | byteRange
  | wantsCharacter
  | characterRange
  | starWantsInteger
  | widthRange
  | precisionRange (inBytes : Bool)
  | unknown (c : Char) (place : Nat)
  deriving Repr, DecidableEq

/-- The text shown for placeholders that cannot be filled. -/
def PatternFault.message : PatternFault → String
  | .tooFew => "not enough arguments for format string"
  | .tooMany inBytes =>
    "not all arguments converted during " ++ (if inBytes then "bytes" else "string") ++
      " formatting"
  | .noMapping => "format requires a mapping"
  | .incompleteKey => "incomplete format key"
  | .incomplete => "incomplete format"
  | .widthRange => "width too big"
  | .precisionRange inBytes => (if inBytes then "prec" else "precision") ++ " too big"
  | .wantsNumber letter kind =>
    "%" ++ letter.toString ++ " format: a real number is required, not " ++ kind
  | .wantsInteger letter kind =>
    "%" ++ letter.toString ++ " format: an integer is required, not " ++ kind
  | .wantsReal inBytes kind =>
    (if inBytes then "float argument required, not " else "must be real number, not ") ++ kind
  | .wantsBytes kind =>
    "%b requires a bytes-like object, or an object that implements __bytes__, not '" ++ kind ++ "'"
  | .wantsByte => "%c requires an integer in range(256) or a single byte"
  | .byteRange => "%c arg not in range(256)"
  | .wantsCharacter => "%c requires int or char"
  | .characterRange => "%c arg not in range(0x110000)"
  | .starWantsInteger => "* wants int"
  | .unknown c place =>
    "unsupported format character '" ++ (if 32 ≤ c.toNat && c.toNat < 127 then c.toString else "?")
      ++ "' (0x" ++ String.ofList (Nat.toDigits 16 c.toNat) ++ ") at index " ++ toString place

/-! ## All that goes wrong -/

/-- Why an expression has no value. -/
inductive Fault where
  | undefined (complaint : String)
  | operator (e : OperatorFault)
  | pattern (e : PatternFault)
  | call (e : CallFault)
  | layout (e : LayoutFault)
  | field (e : FieldFault)
  | method (e : MethodFault)
  | filter (e : FilterFault)
  | making (e : MakingFault)
  | noKey (shown : String)
  | noIndex (what : String)
  | noAttribute (owner name : String)
  | noMember (name : String)
  | readOnly (owner name : String)
  | attributeName (kind : String)
  | placeKind (row kind : String)
  | placeRange
  | notIterable (kind : String)
  | notReversible (kind : String)
  | notSubscriptable (kind : String)
  | typeNotSubscriptable (name : String)
  | notGeneric (shown : String)
  | noLength (kind : String)
  | unhashable (kind : String)
  | sliceBounds
  | placeBounds
  | sliceStep
  | byteRange
  | bytesWanted (kind : String)
  | notAnInteger (kind : String)
  | zeroStep
  | emptyCycler
  | switchRange
  | amountRange
  | noName (name : String)
  | noFilter (name : String)
  | noTest (name : String)
  | unnamed (what shown : String) (complaint : Option String)
  | truncation (e : SeedError)
  | noReal (shown : String)
  | realWanted (kind : String)
  | overlong
  | memory
  | beyond (complaint : String)
  | unsupported
  deriving Repr, DecidableEq

/-- The text shown for an expression that has no value. -/
def Fault.message : Fault → String
  | .undefined complaint => complaint
  | .operator e => e.message
  | .pattern e => e.message
  | .call e => e.message
  | .layout e => e.message
  | .field e => e.message
  | .method e => e.message
  | .filter e => e.message
  | .making e => e.message
  | .noKey shown => shown
  | .noIndex what => (if what.isEmpty then "" else what ++ " ") ++ "index out of range"
  | .noAttribute owner name => owner ++ " has no attribute '" ++ name ++ "'"
  | .noMember name => name
  | .readOnly owner name => owner ++ " attribute '" ++ name ++ "' is read-only"
  | .attributeName kind => "attribute name must be string, not '" ++ kind ++ "'"
  | .placeKind row kind =>
    if row = "str" then "string indices must be integers, not '" ++ kind ++ "'"
    else row ++ " indices must be integers or slices, not " ++ kind
  | .placeRange => "cannot fit 'int' into an index-sized integer"
  | .notIterable kind => "'" ++ kind ++ "' object is not iterable"
  | .notReversible kind => "'" ++ kind ++ "' object is not reversible"
  | .notSubscriptable kind => "'" ++ kind ++ "' object is not subscriptable"
  | .typeNotSubscriptable name => "type '" ++ name ++ "' is not subscriptable"
  | .notGeneric shown => shown ++ " is not a generic class"
  | .noLength kind => "object of type '" ++ kind ++ "' has no len()"
  | .unhashable kind => "unhashable type: '" ++ kind ++ "'"
  | .sliceBounds => "slice indices must be integers or None or have an __index__ method"
  | .placeBounds => "slice indices must be integers or have an __index__ method"
  | .sliceStep => "slice step cannot be zero"
  | .byteRange => "byte must be in range(0, 256)"
  | .bytesWanted kind => "a bytes-like object is required, not '" ++ kind ++ "'"
  | .notAnInteger kind => "'" ++ kind ++ "' object cannot be interpreted as an integer"
  | .amountRange => "Python int too large to convert to C ssize_t"
  | .switchRange => "Python int too large to convert to C int"
  | .emptyCycler => "at least one item has to be provided"
  | .zeroStep => "range() arg 3 must not be zero"
  | .noName name => "name '" ++ name ++ "' is not defined"
  | .noFilter name => "No filter named " ++ Text.quoted name ++ " found."
  | .noTest name => "No test named " ++ Text.quoted name ++ " found."
  | .unnamed what shown complaint =>
    let hint (complaint : String) :=
      " (" ++ complaint ++ "; did you forget to quote the callable name?)"
    "No " ++ what ++ " named " ++ shown ++ "." ++ (complaint.map hint).getD ""
  | .truncation e => e.message
  | .noReal shown => "could not convert string to float: " ++ shown
  | .realWanted kind =>
    "float() argument must be a string or a real number, not '" ++ kind ++ "'"
  | .overlong =>
    "Exceeds the limit (4300 digits) for integer string conversion; "
      ++ "use sys.set_int_max_str_digits() to increase the limit"
  | .memory => ""
  | .beyond complaint => complaint
  | .unsupported => "unsupported expression"

/-- A fault that lies in the kinds of values or in how many of them there are, and not in the values
themselves. -/
def Fault.isAboutKinds : Fault → Bool
  | .operator e =>
    match e with
    | .operands .. | .operand .. | .size _ | .concatenation .. | .bytesConcatenation _
    | .repetition _ | .order .. | .membership _ | .membershipInText _ => true
    | _ => false
  | .call .mixed => false
  | .call _ => true
  | .method e =>
    match e with
    | .wanted .. | .padding _ | .fillWidth | .notJoinable | .joinedItem ..
    | .joinedBytes .. | .mapped | .unrecoverable | .unrecoverableOf _ | .textWanted
    | .noBytes _ | .lonelyTable | .tableText | .tableKey | .pairKind _ => true
    | _ => false
  | .filter e =>
    match e with
    | .notPairs | .sumStart .. | .noRounding _ | .unpacked _ | .patternWanted _ | .textPattern
    | .notWritten _ | .keyKind _ => true
    | _ => false
  | .making e => e.isAboutKinds
  | .layout (.notForKind _) => true
  | .pattern e =>
    match e with
    | .incompleteKey | .incomplete | .byteRange | .characterRange | .unknown .. => false
    | _ => true
  | .truncation .truth | .truncation (.kind _) => true
  | .attributeName _ | .placeKind .. | .notIterable _ | .notReversible _ | .notSubscriptable _
  | .typeNotSubscriptable _ | .notGeneric _ | .noLength _ | .unhashable _ | .sliceBounds
  | .placeBounds | .bytesWanted _ | .notAnInteger _ | .realWanted _ => true
  | _ => false

end TagCloud.Template

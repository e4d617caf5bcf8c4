import HaxeBuild.Checked
import HaxeBuild.Number.Binary64
import HaxeBuild.Settings.Basic
import HaxeBuild.Text.Blank
import HaxeBuild.Value.Equality

namespace HaxeBuild

namespace Value

/-- A text is read as it is, octets as UTF-8. -/
def readText (v : Value) : Checked Text :=
  match v.text?, v with
  | some t, _ => .valid t
  | _, .bytes octets =>
    match Text.ofUtf8? octets with
    | some t => .valid t
    | Option.none => .flawed .notUnicode
  | _, _ => .flawed .notString

/-- What a number or a truth value is spelled as. A lone surrogate spells nothing. -/
def spelled? (unreadable : Flaw) (v : Value) : Option (Checked Text) :=
  match v.text?, v with
  | some t, _ => some (if Text.isUnicode t then .valid t else .flawed .notUnicode)
  | _, .bytes octets =>
    some (match Text.ofUtf8? octets with
      | some t => .valid t
      | Option.none => .flawed unreadable)
  | _, _ => Option.none

def readTextOrNone : Value → Checked (Option Text)
  | .none => .valid Option.none
  | v => v.readText.map some

/-- The digits of a numeral, where single underscores may stand between digits. -/
def digitsOf? : Text → Option (List Nat)
  | [] => some []
  | .char '_' :: c :: rest =>
    if c.isAsciiDigit then digitsOf? (c :: rest) else Option.none
  | c :: rest =>
    if c.isAsciiDigit then (digitsOf? rest).map ((c.val - 48) :: ·) else Option.none

/-- Leading zeros, and the underscores among them, say nothing; one zero is kept before a point
and at the end. -/
def dropZeros : Text → Option Text
  | .char '0' :: rest => some (afterZero [.char '0'] rest)
  | c :: rest => if c.isAsciiDigit then some (c :: rest) else Option.none
  | [] => Option.none
where
  afterZero (last : Text) : Text → Text
    | .char '0' :: rest => afterZero [.char '0'] rest
    | .char '_' :: rest => afterZero [.char '_'] rest
    | .char '.' :: rest => last ++ .char '.' :: rest
    | [] => last
    | rest => rest

/-- A fraction of zeros only, which an integer may carry. -/
def dropZeroFraction (t : Text) : Text :=
  match Text.cut? "." t with
  | some (whole, fraction) => if fraction.all (· == .char '0') then whole else t
  | Option.none => t

/-- Numerals may be surrounded by white space, which here leaves out the information separators. -/
def trimNumeral (t : Text) : Text :=
  let isSpace (c : Code) := c.isBlank && !(28 ≤ c.val && c.val ≤ 31)
  ((t.dropWhile isSpace).reverse.dropWhile isSpace).reverse

def unsignedOfText? (t : Text) : Option Nat := do
  let t ← dropZeros t
  let t := dropZeroFraction t
  if t.isEmpty || t.head? == some (.char '_') then Option.none
  else do
    let digits ← digitsOf? t
    return digits.foldl (fun n digit => n * 10 + digit) 0

def integerOfText? (t : Text) : Option Int :=
  match trimNumeral t with
  | .char '-' :: rest => (unsignedOfText? rest).map fun n => -(n : Int)
  | .char '+' :: rest => (unsignedOfText? rest).map fun n => (n : Int)
  | t => (unsignedOfText? t).map fun n => (n : Int)

/-- Truth values, whole numbers and numerals are integers. -/
def readInteger (v : Value) : Checked Int :=
  match v.spelled? .unreadableInteger, v with
  | some (.invalid issues), _ => .invalid issues
  | some (.valid t), _ =>
    match integerOfText? t with
    | some n => .valid n
    | Option.none => .flawed .unreadableInteger
  | _, .bool b => .valid (if b then 1 else 0)
  | _, .int n => .valid n
  | _, .float x =>
    match Binary64.decode? x with
    | some d => if d.isIntegral then .valid d.truncate else .flawed .fractional
    | Option.none => .flawed .infinite
  | _, _ => .flawed .notInteger

def readNatural (v : Value) : Checked Nat :=
  match v.readInteger with
  | .valid n => if n < 0 then .flawed .negative else .valid n.toNat
  | .invalid issues => .invalid issues

/-- The words for true and false, compared without regard to ASCII case. -/
def booleanWords : List (Text × Bool) := [
  ("0", false), ("off", false), ("f", false), ("false", false), ("n", false), ("no", false),
  ("1", true), ("on", true), ("t", true), ("true", true), ("y", true), ("yes", true)]

def asciiLower (t : Text) : Text :=
  t.map fun c => if 65 ≤ c.val && c.val ≤ 90 then .char (Char.ofNat (c.val + 32)) else c

/-- Numbers of at most 64 bits. -/
def fitsWord (n : Int) : Bool := -9223372036854775808 ≤ n && n < 9223372036854775808

/-- Zero and one are truth values; larger numbers than a word are not even read. -/
def booleanOfInteger (n : Int) : Checked Bool :=
  if n == 0 then .valid false
  else if n == 1 then .valid true
  else if fitsWord n then .flawed .unreadableBoolean
  else .flawed .notBoolean

def readBoolean (v : Value) : Checked Bool :=
  match v.spelled? .unreadableBoolean, v with
  | some (.invalid issues), _ => .invalid issues
  | some (.valid t), _ =>
    match booleanWords.lookup (asciiLower t) with
    | some b => .valid b
    | Option.none => .flawed .unreadableBoolean
  | _, .bool b => .valid b
  | _, .int n => booleanOfInteger n
  | _, .float x =>
    match Binary64.decode? x with
    | some d => if d.isIntegral then booleanOfInteger d.truncate else .flawed .notBoolean
    | Option.none => .flawed .notBoolean
  | _, _ => .flawed .notBoolean

def readPath (v : Value) : Checked Path :=
  match v.text?, v with
  | some t, _ => .valid (Path.ofText t)
  | _, .path p => .valid p
  | _, _ => .flawed .notPath

def readPathOrNone : Value → Checked (Option Path)
  | .none => .valid Option.none
  | v => v.readPath.map some

def readOrientation (v : Value) : Checked Orientation :=
  match v.text?.bind fun t => Orientation.all.find? (·.name == t) with
  | some o => .valid o
  | Option.none => .flawed .notMember

/-- The members of a value that may stand for a list. -/
def listed? : Value → Option (List Value)
  | .names members => some (members.map .text)
  | v => v.list?.or v.tuple?

def readList {α : Type} (read : Value → Checked α) (v : Value) : Checked (List α) :=
  match v.listed? with
  | some items => Checked.each read 0 items
  | Option.none => .flawed .notList

/-- Sorts a list of texts and keeps each once. -/
def distinct (ts : List Text) : List Text := (Text.sorted ts).eraseReps

def readNames (v : Value) : Checked (List Text) :=
  match v.listed? with
  | some items => (Checked.each readText 0 items).map distinct
  | Option.none => .flawed .notSet

/-- Reads a field, or takes the default if there is no such field. -/
def readField {α : Type} (entries : List (Value × Value)) (name : Text) (missing : Option α)
    (read : Value → Checked α) : Checked α :=
  match lookup? (.text name) entries, missing with
  | some v, _ => (read v).within (.field name)
  | Option.none, some a => .valid a
  | Option.none, Option.none => (Checked.flawed .missing).within (.field name)

/-- Reads the fields of a model; unknown fields are ignored. -/
def readModel {α : Type} (read : List (Value × Value) → Checked α) (v : Value) : Checked α :=
  match v.entries? with
  | some entries => read entries
  | Option.none => .flawed .notModel

end Value

open Value

namespace LibraryReference

/-- The name comes first. -/
def ofValue : Value → Checked LibraryReference
  | .library l => .valid l
  | v => v.readModel fun entries =>
    mk <$> readField entries "name" Option.none readName
      <*> readField entries "version" (some Option.none) readTextOrNone
where
  readName (v : Value) : Checked Text :=
    match v.readText with
    | .valid name => checkedName name
    | .invalid issues => .invalid issues

end LibraryReference

namespace Subtarget

def ofValue : Value → Checked Subtarget
  | .subtarget s => .valid s
  | v => v.readModel fun entries =>
    mk <$> readField entries "name" Option.none LibraryReference.ofValue.readName
      <*> readField entries "aliases" (some []) readNames
      <*> readField entries "command_switch" Option.none readText
      <*> readField entries "interpreter" Option.none readText
      <*> readField entries "interpreter_suffix" (some []) readText

end Subtarget

namespace Settings

/-- Every setting has a default. -/
def ofValue (v : Value) : Checked Settings :=
  v.readModel fun entries =>
    mk <$> readField entries "title" (some "App Title") readText
      <*> readField entries "name" (some "AppName") readText
      <*> readField entries "package" (some "com.example.app") readText
      <*> readField entries "version" (some "0.0.1") readText
      <*> readField entries "company" (some "My Company") readText
      <*> readField entries "initial_width" (some 1280) readNatural
      <*> readField entries "initial_height" (some 720) readNatural
      <*> readField entries "orientation" (some .auto) readOrientation
      <*> readField entries "embed_resources" (some true) readBoolean
      <*> readField entries "assets" (some []) (readList fun v => v.readPath.map .path)
      <*> readField entries "icon" (some Option.none) readTextOrNone
      <*> readField entries "libraries" (some []) (readList fun v => v.readText.map .text)
      <*> readField entries "minimize_names" (some false) readBoolean
      <*> readField entries "release" (some false) readBoolean
      <*> readField entries "analyzer_enabled" (some false) readBoolean

end Settings

end HaxeBuild

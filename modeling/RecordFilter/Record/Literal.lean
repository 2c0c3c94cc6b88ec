import RecordFilter.Text.NameChar

set_option autoImplicit false

namespace RecordFilter.Record

inductive LiteralKind where
  | string
  | bytes
  | terminated
deriving DecidableEq

namespace LiteralKind

def allowsChar (kind : LiteralKind) (char : Char) : Bool :=
  match kind with
  | string => true
  | bytes => char.toNat < 0x80
  | terminated => char ≠ '\x00'

def allowsEscaped (kind : LiteralKind) (code : Nat) : Bool := kind ≠ terminated || code ≠ 0

end LiteralKind

def hexDigit? (char : Char) : Option Nat :=
  if char.isDigit then some (char.toNat - '0'.toNat)
  else if 'a' ≤ char && char ≤ 'f' then some (char.toNat - 'a'.toNat + 10)
  else if 'A' ≤ char && char ≤ 'F' then some (char.toNat - 'A'.toNat + 10)
  else none

-- Where the reader of a literal stands: in plain text, inside an escape, or in the blanks after an escaped line end,
-- which are left out. A carriage return must have a line feed behind it; the two are one line end.
inductive LiteralMode where
  | plain
  | returned
  | escape
  | byteHigh
  | byteLow (high : Nat)
  | codeStart
  | code (digits value : Nat)
  | lineEnd
  | lineEndReturned
deriving DecidableEq

inductive LiteralStep where
  | close
  | refuse
  | go (content : List Char) (mode : LiteralMode)
deriving DecidableEq

namespace LiteralMode

def plainStep (kind : LiteralKind) (char : Char) : LiteralStep :=
  match char with
  | '"' => .close
  | '\\' => .go [] escape
  | '\r' => .go [] returned
  | _ => if kind.allowsChar char then .go [char] plain else .refuse

def escapedStep (kind : LiteralKind) (code : Nat) : LiteralStep :=
  if kind.allowsEscaped code then .go [Char.ofNat code] plain else .refuse

def escapeStep (kind : LiteralKind) (char : Char) : LiteralStep :=
  match char with
  | 'n' => .go ['\n'] plain
  | 'r' => .go ['\r'] plain
  | 't' => .go ['\t'] plain
  | '0' => escapedStep kind 0
  | '\\' | '\'' | '"' => .go [char] plain
  | 'x' => .go [] byteHigh
  | 'u' => if kind = .bytes then .refuse else .go [] codeStart
  | '\n' => .go [] lineEnd
  | '\r' => .go [] lineEndReturned
  | _ => .refuse

def highStep (kind : LiteralKind) (char : Char) : LiteralStep :=
  match hexDigit? char with
  | some digit => if digit < 8 || kind ≠ .string then .go [] (byteLow digit) else .refuse
  | none => .refuse

def lowStep (kind : LiteralKind) (high : Nat) (char : Char) : LiteralStep :=
  match hexDigit? char with
  | some digit => escapedStep kind (16 * high + digit)
  | none => .refuse

def codeStep (kind : LiteralKind) (digits value : Nat) (char : Char) : LiteralStep :=
  if char = '_' && digits ≠ 0 then .go [] (code digits value)
  else if char = '\x7d' && digits ≠ 0 then if value.isValidChar then escapedStep kind value else .refuse
  else if digits = 6 then .refuse
  else
    match hexDigit? char with
    | some digit => .go [] (code (digits + 1) (16 * value + digit))
    | none => .refuse

def lineEndStep (kind : LiteralKind) (char : Char) : LiteralStep :=
  match char with
  | ' ' | '\t' | '\n' => .go [] lineEnd
  | '\r' => .go [] lineEndReturned
  | _ => plainStep kind char

def step (kind : LiteralKind) (char : Char) : LiteralMode → LiteralStep
  | plain => plainStep kind char
  | returned => if char = '\n' then .go ['\n'] plain else .refuse
  | escape => escapeStep kind char
  | byteHigh => highStep kind char
  | byteLow high => lowStep kind high char
  | codeStart => if char = '\x7b' then .go [] (code 0 0) else .refuse
  | code digits value => codeStep kind digits value char
  | lineEnd => lineEndStep kind char
  | lineEndReturned => if char = '\n' then .go [] lineEnd else .refuse

end LiteralMode

def readQuoted (kind : LiteralKind) (mode : LiteralMode) : List Char → Option (List Char × List Char)
  | [] => none
  | char :: rest =>
    match mode.step kind char with
    | .close => some ([], rest)
    | .refuse => none
    | .go content next => (readQuoted kind next rest).map fun (more, left) => (content ++ more, left)

-- Nothing is escaped: the content ends at the first quote with enough hashes behind it.
def readRaw (kind : LiteralKind) (hashes : Nat) : List Char → Option (List Char × List Char)
  | [] => none
  | char :: rest =>
    if char = '"' && rest.take hashes = List.replicate hashes '#' then some ([], rest.drop hashes)
    else if char = '\r' && rest.head? ≠ some '\n' then none
    else if kind.allowsChar char then (readRaw kind hashes rest).map fun (more, left) => (char :: more, left)
    else none

def readHashed (kind : LiteralKind) (text : List Char) : Option (List Char × List Char) :=
  let hashes := (text.takeWhile (· = '#')).length
  match text.dropWhile (· = '#') with
  | '"' :: body => if hashes ≤ 255 then readRaw kind hashes body else none
  | _ => none

def skipEscape (kind : LiteralKind) (mode : LiteralMode) : List Char → Option (List Char)
  | [] => none
  | char :: rest =>
    match mode.step kind char with
    | .go _ .plain => some rest
    | .go _ .lineEnd | .go _ .lineEndReturned | .close | .refuse => none
    | .go _ next => skipEscape kind next rest

def skipApostrophe : List Char → Option (List Char)
  | '\'' :: rest => some rest
  | _ => none

def skipCharacter (kind : LiteralKind) : List Char → Option (List Char)
  | [] => none
  | '\\' :: rest => (skipEscape kind .escape rest).bind skipApostrophe
  | char :: rest => if kind.allowsChar char then skipApostrophe rest else none

def dropSuffix (text : List Char) : List Char :=
  match text with
  | [] => []
  | char :: rest => if Text.isNameStart char then rest.dropWhile Text.isNameChar else text

def escapeChar (char : Char) : List Char :=
  match char with
  | '"' => ['\\', '"']
  | '\\' => ['\\', '\\']
  | '\r' => ['\\', 'r']
  | _ => [char]

def stringLiteral (content : String) : String :=
  String.ofList ('"' :: content.toList.flatMap escapeChar ++ ['"'])

theorem readQuoted_escapeChar (char : Char) (text : List Char) :
    readQuoted .string .plain (escapeChar char ++ text) =
      (readQuoted .string .plain text).map fun (more, left) => (char :: more, left) := by
  unfold escapeChar
  split
  iterate 3
    simp [readQuoted, LiteralMode.step, LiteralMode.plainStep, LiteralMode.escapeStep, Function.comp_def]
  · rename_i quote backslash carriage
    simp [readQuoted, LiteralMode.step, LiteralMode.plainStep, LiteralKind.allowsChar]

theorem readQuoted_escape (content text : List Char) :
    readQuoted .string .plain (content.flatMap escapeChar ++ '"' :: text) = some (content, text) := by
  induction content with
  | nil => simp [readQuoted, LiteralMode.step, LiteralMode.plainStep]
  | cons char rest ih => rw [List.flatMap_cons, List.append_assoc, readQuoted_escapeChar, ih, Option.map_some]

theorem readQuoted_suffix {kind : LiteralKind} {mode : LiteralMode} {text content left : List Char}
    (read : readQuoted kind mode text = some (content, left)) : left <:+ text := by
  induction text generalizing mode content with
  | nil => simp [readQuoted] at read
  | cons char rest ih =>
    rw [readQuoted] at read
    split at read
    · cases read
      exact List.suffix_cons char left
    · cases read
    · obtain ⟨⟨more, after⟩, found, same⟩ := Option.map_eq_some_iff.mp read
      cases same
      exact (ih found).trans (List.suffix_cons char rest)

theorem readRaw_suffix {kind : LiteralKind} {hashes : Nat} {text content left : List Char}
    (read : readRaw kind hashes text = some (content, left)) : left <:+ text := by
  induction text generalizing content with
  | nil => simp [readRaw] at read
  | cons char rest ih =>
    rw [readRaw] at read
    split at read
    · cases read
      exact (List.drop_suffix hashes rest).trans (List.suffix_cons char rest)
    split at read
    · cases read
    split at read
    · obtain ⟨⟨more, after⟩, found, same⟩ := Option.map_eq_some_iff.mp read
      cases same
      exact (ih found).trans (List.suffix_cons char rest)
    · cases read

theorem readHashed_suffix {kind : LiteralKind} {text content left : List Char}
    (read : readHashed kind text = some (content, left)) : left <:+ text := by
  unfold readHashed at read
  dsimp only at read
  split at read
  · rename_i body behind
    split at read
    · exact ((readRaw_suffix read).trans (List.suffix_cons '"' body)).trans (behind ▸ List.dropWhile_suffix _)
    · cases read
  · cases read

theorem skipEscape_suffix {kind : LiteralKind} {mode : LiteralMode} {text left : List Char}
    (read : skipEscape kind mode text = some left) : left <:+ text := by
  induction text generalizing mode with
  | nil => cases read
  | cons char rest ih =>
    rw [skipEscape] at read
    split at read
    · cases read
      exact List.suffix_cons char left
    iterate 4 cases read
    · exact (ih read).trans (List.suffix_cons char rest)

theorem skipApostrophe_suffix {text left : List Char} (read : skipApostrophe text = some left) : left <:+ text := by
  unfold skipApostrophe at read
  split at read
  · cases read
    exact List.suffix_cons '\'' left
  · cases read

theorem skipCharacter_suffix {kind : LiteralKind} {text left : List Char}
    (read : skipCharacter kind text = some left) : left <:+ text := by
  unfold skipCharacter at read
  split at read
  · cases read
  · rename_i rest
    obtain ⟨after, found, closed⟩ := Option.bind_eq_some_iff.mp read
    exact (skipApostrophe_suffix closed).trans ((skipEscape_suffix found).trans (List.suffix_cons '\\' rest))
  · rename_i char rest _
    split at read
    · exact (skipApostrophe_suffix read).trans (List.suffix_cons char rest)
    · cases read

theorem dropSuffix_suffix (text : List Char) : dropSuffix text <:+ text := by
  unfold dropSuffix
  split
  · exact List.suffix_refl []
  · rename_i char rest
    split
    · exact (List.dropWhile_suffix _).trans (List.suffix_cons char rest)
    · exact List.suffix_refl _

end RecordFilter.Record

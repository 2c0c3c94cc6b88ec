set_option autoImplicit false

namespace RecordFilter.Record

inductive CommentKind where
  | plain
  | outer
  | inner
deriving DecidableEq

namespace CommentKind

def ofLine : List Char → CommentKind
  | '!' :: _ => inner
  | '/' :: '/' :: _ => plain
  | '/' :: _ => outer
  | _ => plain

def ofBlock : List Char → CommentKind
  | '!' :: _ => inner
  | '*' :: '*' :: _ | '*' :: '/' :: _ => plain
  | '*' :: _ => outer
  | _ => plain

end CommentKind

def skipBlock (depth : Nat) : List Char → Option (List Char)
  | [] => none
  | '/' :: '*' :: rest => skipBlock (depth + 1) rest
  | '*' :: '/' :: rest => if depth = 0 then some rest else skipBlock (depth - 1) rest
  | _ :: rest => skipBlock depth rest

def beginsComment : List Char → Bool
  | '/' :: '/' :: _ | '/' :: '*' :: _ => true
  | _ => false

def hasLoneReturn : List Char → Bool
  | [] => false
  | '\r' :: '\n' :: rest => hasLoneReturn rest
  | char :: rest => char = '\r' || hasLoneReturn rest

def takeLine (text : List Char) : List Char := text.take ((text.takeWhile (· ≠ '\n')).length + 1)

def checkComment (kind : CommentKind) (content left : List Char) : Option (CommentKind × List Char) :=
  if kind ≠ .plain && hasLoneReturn content then none else some (kind, left)

def readComment (text : List Char) : Option (CommentKind × List Char) :=
  match text with
  | '/' :: rest => checkComment (.ofLine rest) (takeLine rest) (rest.dropWhile (· ≠ '\n'))
  | '*' :: rest =>
    match skipBlock 0 rest with
    | some left => checkComment (.ofBlock rest) (rest.take (rest.length - left.length)) left
    | none => none
  | _ => none

theorem skipBlock_suffix {depth : Nat} {text left : List Char} (read : skipBlock depth text = some left) :
    left <:+ text := by
  fun_induction skipBlock depth text with
  | case1 => cases read
  | case2 depth rest ih => exact (ih read).trans ((List.suffix_cons '*' rest).trans (List.suffix_cons '/' _))
  | case3 rest =>
    cases read
    exact (List.suffix_cons '/' left).trans (List.suffix_cons '*' _)
  | case4 depth rest _ ih => exact (ih read).trans ((List.suffix_cons '/' rest).trans (List.suffix_cons '*' _))
  | case5 depth char rest _ _ ih => exact (ih read).trans (List.suffix_cons char rest)

theorem eq_of_checkComment {kind found : CommentKind} {content text left : List Char}
    (read : checkComment kind content text = some (found, left)) : left = text := by
  unfold checkComment at read
  split at read
  · cases read
  · cases read
    rfl

theorem readComment_suffix {kind : CommentKind} {text left : List Char}
    (read : readComment text = some (kind, left)) : left <:+ text := by
  unfold readComment at read
  split at read
  · rename_i rest
    rw [eq_of_checkComment read]
    exact (List.dropWhile_suffix _).trans (List.suffix_cons '/' rest)
  · rename_i rest
    split at read
    · rename_i after found
      rw [eq_of_checkComment read]
      exact (skipBlock_suffix found).trans (List.suffix_cons '*' rest)
    · cases read
  · cases read

end RecordFilter.Record

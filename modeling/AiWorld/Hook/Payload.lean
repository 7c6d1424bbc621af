import Mathlib.Data.List.DropRight
import AiWorld.Json.Syntax

set_option autoImplicit false

namespace AiWorld.Hook

open AiWorld.Json

-- The text cut at every double quote, empty records kept.
def recordsFrom (record : Text) : Text → List Text
  | [] => [record]
  | c :: rest => if c = '"' then record :: recordsFrom [] rest else recordsFrom (record ++ [c]) rest

def records (text : Text) : List Text := recordsFrom [] text

def allowList : List Text :=
  ["session_id".toList, "hook_event_name".toList, "source".toList, "reason".toList, "agent_id".toList, "agent_type".toList,
    "id".toList]

def allowed (key : Text) : Bool := allowList.contains key

-- The variables of the awk program, and the lines it has printed.
structure Awk where
  depth : Int := 0
  instr : Bool := false
  acc : Text := []
  esc : Bool := false
  haspend : Bool := false
  pend : Text := []
  isval : Bool := false
  seen : List Text := []
  printed : List Text := []
deriving DecidableEq, Repr

def separates (c : Char) : Bool := c = ',' || c = '[' || c = '\x7b'

def opens (c : Char) : Bool := c = '[' || c = '\x7b'

def closes (c : Char) : Bool := c = ']' || c = '\x7d'

-- What is left after `sub(/^.*[,[{]/, "", t)`.
def afterSeparator (record : Text) : Text := record.rtakeWhile (fun c => !separates c)

def outside (record : Text) (s : Awk) : Awk :=
  { s with
    isval := (afterSeparator record).contains ':'
    depth := s.depth + (record.countP opens - record.countP closes)
    instr := true }

-- `RLENGTH` after `match(r, /\\+$/)`.
def trailingBackslashes (record : Text) : Nat := (record.rtakeWhile (fun c => c = '\\')).length

def tokenChar (c : Char) : Bool := c.isAlphanum || c = '.' || c = '_' || c = ':' || c = '-'

def tokenLimit : Nat := 64

def isToken (content : Text) : Bool :=
  decide (1 ≤ content.length) && decide (content.length ≤ tokenLimit) && content.all tokenChar

def member (content : Text) (bad : Bool) (s : Awk) : Awk :=
  if s.isval then
    if s.haspend && !bad && isToken content && !s.seen.contains s.pend then
      { s with seen := s.pend :: s.seen, printed := s.printed ++ [s.pend ++ '=' :: content], haspend := false }
    else { s with haspend := false }
  else { s with haspend := !bad && allowed content, pend := content }

def Awk.leaves (s : Awk) : Awk := { s with acc := [], esc := false, instr := false }

def inside (record : Text) (s : Awk) : Awk :=
  if trailingBackslashes record % 2 = 1 then { s with acc := s.acc ++ record ++ ['"'], esc := true }
  else
    let content := s.acc ++ record
    let bad := s.esc || content.contains '\\'
    if s.depth = 1 then member content bad s.leaves else s.leaves

def awkTop (s : Awk) (record : Text) : Awk := if s.instr then inside record s else outside record s

-- What `top_pairs` prints, a line for each member that was kept.
def topPairs (text : Text) : Text := ((records text).foldl awkTop {}).printed.flatMap (fun line => line ++ ['\n'])

-- A command substitution drops the newlines at the end.
def substituted (output : Text) : Text := output.rdropWhile (fun c => c = '\n')

-- `${t#*mark}`: what follows the first `mark` in `t`, or `t` itself.
def afterMark (mark t : Text) : Option Text :=
  if mark.isPrefixOf t then some (t.drop mark.length)
  else
    match t with
    | [] => none
    | _ :: rest => afterMark mark rest

def pairGet (pairs key : Text) : Text :=
  let t := '\n' :: pairs
  let v := (afterMark ('\n' :: (key ++ ['='])) t).getD t
  if v = t then [] else v.takeWhile (fun c => c ≠ '\n')

end AiWorld.Hook

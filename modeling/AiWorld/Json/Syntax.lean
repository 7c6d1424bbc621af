import Mathlib.Data.Fintype.Basic

set_option autoImplicit false

namespace AiWorld.Json

abbrev Text := List Char

inductive Blank where
  | space
  | tab
  | newline
  | carriageReturn
deriving DecidableEq, Repr

def Blank.char : Blank → Char
  | .space => ' '
  | .tab => '\t'
  | .newline => '\n'
  | .carriageReturn => '\r'

abbrev Space := List Blank

def Space.render (space : Space) : Text := space.map Blank.char

-- The characters after which an escape stands for one character.
inductive Escape where
  | quote
  | backslash
  | slash
  | backspace
  | formFeed
  | newline
  | carriageReturn
  | tab
deriving DecidableEq, Repr

def Escape.letter : Escape → Char
  | .quote => '"'
  | .backslash => '\\'
  | .slash => '/'
  | .backspace => 'b'
  | .formFeed => 'f'
  | .newline => 'n'
  | .carriageReturn => 'r'
  | .tab => 't'

structure Unescaped where
  char : Char
  printable : 32 ≤ char.toNat
  notQuote : char ≠ '"'
  notBackslash : char ≠ '\\'
deriving DecidableEq

def isHexDigit (c : Char) : Bool := c.isDigit || ('a' ≤ c && c ≤ 'f') || ('A' ≤ c && c ≤ 'F')

structure HexDigit where
  char : Char
  hex : isHexDigit char = true
deriving DecidableEq

inductive Item where
  | plain (unescaped : Unescaped)
  | escaped (escape : Escape)
  | unicode (first second third fourth : HexDigit)
deriving DecidableEq

def Item.render : Item → Text
  | .plain unescaped => [unescaped.char]
  | .escaped escape => ['\\', escape.letter]
  | .unicode first second third fourth => ['\\', 'u', first.char, second.char, third.char, fourth.char]

def renderItems (items : List Item) : Text := items.flatMap Item.render

-- The characters of a string that is written without escapes.
def literal : List Item → Option Text
  | [] => some []
  | .plain unescaped :: rest => (literal rest).map (unescaped.char :: ·)
  | _ :: _ => none

def digit (value : Fin 10) : Char := Char.ofNat (48 + value)

structure Digits where
  first : Fin 10
  rest : List (Fin 10)
deriving DecidableEq, Repr

def Digits.render (digits : Digits) : Text := (digits.first :: digits.rest).map digit

-- No leading zero: the first digit of a longer number is one more than a `Fin 9`.
inductive Whole where
  | zero
  | positive (first : Fin 9) (rest : List (Fin 10))
deriving DecidableEq, Repr

def Whole.render : Whole → Text
  | .zero => ['0']
  | .positive first rest => (first.succ :: rest).map digit

inductive Sign where
  | plus
  | minus
deriving DecidableEq, Repr

def Sign.char : Sign → Char
  | .plus => '+'
  | .minus => '-'

structure Exponent where
  upper : Bool
  sign : Option Sign
  digits : Digits
deriving DecidableEq, Repr

def Exponent.render (exponent : Exponent) : Text :=
  (if exponent.upper then 'E' else 'e') :: (exponent.sign.toList.map Sign.char ++ exponent.digits.render)

structure Number where
  negative : Bool
  whole : Whole
  fraction : Option Digits
  exponent : Option Exponent
deriving DecidableEq, Repr

def Number.render (number : Number) : Text :=
  (if number.negative then ['-'] else []) ++ number.whole.render ++
    number.fraction.toList.flatMap (fun digits => '.' :: digits.render) ++ number.exponent.toList.flatMap Exponent.render

inductive Word where
  | true
  | false
  | null
deriving DecidableEq, Repr

def Word.render : Word → Text
  | .true => ['t', 'r', 'u', 'e']
  | .false => ['f', 'a', 'l', 's', 'e']
  | .null => ['n', 'u', 'l', 'l']

structure Key where
  before : Space
  items : List Item
  afterKey : Space
  beforeValue : Space
deriving DecidableEq

def renderString (items : List Item) : Text := '"' :: (renderItems items ++ ['"'])

def Key.render (key : Key) : Text :=
  key.before.render ++ renderString key.items ++ key.afterKey.render ++ ':' :: key.beforeValue.render

mutual

-- A value as it is written, blanks included.
inductive Value where
  | string (items : List Item)
  | number (number : Number)
  | word (word : Word)
  | emptyArray (space : Space)
  | array (elements : Elements)
  | object (object : Object)

inductive Elements where
  | last (before : Space) (value : Value) (after : Space)
  | more (before : Space) (value : Value) (after : Space) (rest : Elements)

inductive Members where
  | last (key : Key) (value : Value) (after : Space)
  | more (key : Key) (value : Value) (after : Space) (rest : Members)

inductive Object where
  | empty (space : Space)
  | members (members : Members)

end

mutual

def Value.render : Value → Text
  | .string items => renderString items
  | .number number => number.render
  | .word word => word.render
  | .emptyArray space => '[' :: (space.render ++ [']'])
  | .array elements => '[' :: (elements.render ++ [']'])
  | .object object => object.render

def Elements.render : Elements → Text
  | .last before value after => before.render ++ value.render ++ after.render
  | .more before value after rest => before.render ++ value.render ++ after.render ++ ',' :: rest.render

def Members.render : Members → Text
  | .last key value after => key.render ++ value.render ++ after.render
  | .more key value after rest => key.render ++ value.render ++ after.render ++ ',' :: rest.render

def Object.render : Object → Text
  | .empty space => '\x7b' :: (space.render ++ ['\x7d'])
  | .members members => '\x7b' :: (members.render ++ ['\x7d'])

end

-- An object text, with blanks around it.
structure Document where
  before : Space
  object : Object
  after : Space

def Document.render (document : Document) : Text :=
  document.before.render ++ document.object.render ++ document.after.render

-- What a string's quote and the six structural characters are to a reader that does
-- not parse the rest.
def structural (c : Char) : Bool := ['"', ',', ':', '[', ']', '\x7b', '\x7d'].contains c

def Quiet (text : Text) : Prop := ∀ c ∈ text, structural c = false

theorem quiet_append {left right : Text} (first : Quiet left) (second : Quiet right) : Quiet (left ++ right) := by
  intro c present
  cases List.mem_append.mp present with
  | inl inLeft => exact first c inLeft
  | inr inRight => exact second c inRight

theorem quiet_cons {c : Char} {rest : Text} (head : structural c = false) (tail : Quiet rest) : Quiet (c :: rest) := by
  intro other present
  cases present with
  | head => exact head
  | tail _ inRest => exact tail other inRest

theorem quiet_nil : Quiet [] := fun _ present => nomatch present

theorem space_quiet (space : Space) : Quiet space.render := by
  intro c present
  obtain ⟨blank, _, rfl⟩ := List.mem_map.mp present
  cases blank <;> rfl

theorem digit_quiet (value : Fin 10) : structural (digit value) = false := by
  revert value
  decide

theorem digit_list_quiet {values : List (Fin 10)} : Quiet (values.map digit) := by
  intro c present
  obtain ⟨value, _, rfl⟩ := List.mem_map.mp present
  exact digit_quiet value

theorem whole_quiet {whole : Whole} : Quiet whole.render := by
  cases whole with
  | zero => exact quiet_cons rfl quiet_nil
  | positive first rest => exact digit_list_quiet

theorem exponent_quiet {exponent : Exponent} : Quiet exponent.render := by
  refine quiet_cons (by cases exponent.upper <;> rfl) (quiet_append (fun c present => ?_) (digit_list_quiet))
  obtain ⟨sign, _, rfl⟩ := List.mem_map.mp present
  cases sign <;> rfl

theorem number_quiet {number : Number} : Quiet number.render := by
  refine quiet_append (quiet_append (quiet_append ?_ (whole_quiet)) ?_) ?_
  · cases number.negative with
    | true => exact quiet_cons rfl quiet_nil
    | false => exact quiet_nil
  · intro c present
    obtain ⟨digits, _, inside⟩ := List.mem_flatMap.mp present
    exact quiet_cons rfl (digit_list_quiet) c inside
  · intro c present
    obtain ⟨exponent, _, inside⟩ := List.mem_flatMap.mp present
    exact exponent_quiet c inside

theorem word_quiet {word : Word} : Quiet word.render := by
  have calm : word.render.all (fun c => !structural c) = true := by cases word <;> rfl
  intro c present
  simpa using List.all_eq_true.mp calm c present

theorem render_items_cons (item : Item) (rest : List Item) : renderItems (item :: rest) = item.render ++ renderItems rest := rfl

-- A string is written without escapes exactly if it has no backslash, and then its
-- characters are the ones between the quotes.
theorem literal_eq (items : List Item) :
    literal items = if '\\' ∈ renderItems items then none else some (renderItems items) := by
  induction items with
  | nil => rfl
  | cons item rest ih =>
      rw [render_items_cons]
      cases item with
      | plain unescaped =>
          have other : '\\' ≠ unescaped.char := unescaped.notBackslash.symm
          simp only [literal, ih, Item.render, List.cons_append, List.nil_append, List.mem_cons, other, false_or]
          split <;> rfl
      | escaped escape => simp [literal, Item.render]
      | unicode first second third fourth => simp [literal, Item.render]

end AiWorld.Json

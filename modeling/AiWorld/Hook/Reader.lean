import AiWorld.Hook.Payload

set_option autoImplicit false

namespace AiWorld.Hook

open AiWorld.Json

variable {c : Char}

-- The awk program fed one character at a time: the record read so far, and its
-- variables as of the last quote.
structure Reader where
  record : Text
  awk : Awk

def Reader.feed (reader : Reader) (c : Char) : Reader :=
  if c = '"' then ⟨[], awkTop reader.awk reader.record⟩ else ⟨reader.record ++ [c], reader.awk⟩

def Reader.feeds (reader : Reader) (text : Text) : Reader := text.foldl Reader.feed reader

theorem feeds_append (reader : Reader) (first second : Text) :
    reader.feeds (first ++ second) = (reader.feeds first).feeds second := List.foldl_append

theorem feeds_cons (reader : Reader) (c : Char) (rest : Text) : reader.feeds (c :: rest) = (reader.feed c).feeds rest := rfl

theorem records_feeds (text record : Text) (s : Awk) :
    (recordsFrom record text).foldl awkTop s =
      awkTop (Reader.feeds ⟨record, s⟩ text).awk (Reader.feeds ⟨record, s⟩ text).record := by
  induction text generalizing record s with
  | nil => rfl
  | cons c rest ih =>
      rw [feeds_cons, recordsFrom]
      by_cases quote : c = '"'
      · rw [if_pos quote, List.foldl_cons, ih]
        simp only [Reader.feed, if_pos quote]
      · rw [if_neg quote, ih]
        simp only [Reader.feed, if_neg quote]

-- What the program remembers of the members it has read.
structure Notes where
  haspend : Bool
  pend : Text
  seen : List Text
  printed : List Text

def Awk.notes (s : Awk) : Notes := ⟨s.haspend, s.pend, s.seen, s.printed⟩

def Notes.readKey (notes : Notes) (content : Text) : Notes :=
  { notes with haspend := !content.contains '\\' && allowed content, pend := content }

def Notes.readValue (notes : Notes) (content : Text) : Notes :=
  if notes.haspend && !content.contains '\\' && isToken content && !notes.seen.contains notes.pend then
    { notes with seen := notes.pend :: notes.seen, printed := notes.printed ++ [notes.pend ++ '=' :: content], haspend := false }
  else { notes with haspend := false }

-- What a string does that stands at `depth`, after a colon or not.
def Notes.read (depth : Int) (isval : Bool) (content : Text) (notes : Notes) : Notes :=
  if depth = 1 then if isval then notes.readValue content else notes.readKey content else notes

-- How much deeper the brackets of a text outside a string lead.
def net (text : Text) : Int := text.countP opens - text.countP closes

theorem net_append (first second : Text) : net (first ++ second) = net first + net second := by
  simp only [net, List.countP_append]
  omega

-- Outside a string, with the brackets and the last separator of the record counted in.
structure Between (depth : Int) (colon : Bool) (notes : Notes) (reader : Reader) : Prop where
  instr : reader.awk.instr = false
  acc : reader.awk.acc = []
  esc : reader.awk.esc = false
  depth : reader.awk.depth + net reader.record = depth
  colon : (afterSeparator reader.record).contains ':' = colon
  notes : reader.awk.notes = notes

-- Inside a string whose text so far is `content`.
structure Within (depth : Int) (isval : Bool) (notes : Notes) (content : Text) (reader : Reader) : Prop where
  instr : reader.awk.instr = true
  depth : reader.awk.depth = depth
  isval : reader.awk.isval = isval
  notes : reader.awk.notes = notes
  text : reader.awk.acc ++ reader.record = content
  even : trailingBackslashes reader.record % 2 = 0
  escaped : reader.awk.esc = true → '\\' ∈ content

section
variable {depth : Int} {colon : Bool} {notes : Notes} {content : Text} {reader : Reader}

theorem after_separator_concat (record : Text) (c : Char) :
    afterSeparator (record ++ [c]) = if separates c then [] else afterSeparator record ++ [c] := by
  unfold afterSeparator
  rw [List.rtakeWhile_concat]
  cases separates c <;> rfl

theorem between_char (c : Char) (between : Between depth colon notes reader) (notQuote : c ≠ '"') :
    Between (depth + net [c]) (!separates c && (colon || decide (c = ':'))) notes (reader.feed c) := by
  have fed : reader.feed c = ⟨reader.record ++ [c], reader.awk⟩ := if_neg notQuote
  rw [fed]
  refine ⟨between.instr, between.acc, between.esc, ?_, ?_, between.notes⟩
  · rw [net_append, ← Int.add_assoc, between.depth]
  · dsimp only
    rw [after_separator_concat, ← between.colon]
    cases separates c with
    | true => rfl
    | false => simp [eq_comm]

theorem between_quiet {text : Text} (quiet : Quiet text) (between : Between depth colon notes reader) :
    Between depth colon notes (reader.feeds text) := by
  induction text generalizing reader with
  | nil => exact between
  | cons c rest ih =>
      have plain : structural c = false := quiet c (by simp)
      simp only [structural, List.contains_cons, List.contains_nil, Bool.or_false, Bool.or_eq_false_iff, beq_eq_false_iff_ne] at plain
      obtain ⟨quote, comma, notColon, bracket, unbracket, brace, unbrace⟩ := plain
      have level : net [c] = 0 := by simp [net, opens, closes, bracket, unbracket, brace, unbrace]
      have fed := between_char c between quote
      simp only [level, Int.add_zero, separates, comma, notColon, bracket, brace, decide_false, Bool.or_self, Bool.not_false,
        Bool.true_and, Bool.or_false] at fed
      exact ih (fun other present => quiet other (by simp [present])) fed

theorem trailing_concat (record : Text) (c : Char) :
    trailingBackslashes (record ++ [c]) = if c = '\\' then trailingBackslashes record + 1 else 0 := by
  unfold trailingBackslashes
  rw [List.rtakeWhile_concat]
  by_cases same : c = '\\' <;> simp [same]

theorem within_start (between : Between depth colon notes reader) : Within depth colon notes [] (reader.feed '"') := by
  have top : awkTop reader.awk reader.record = outside reader.record reader.awk := if_neg (by simp [between.instr])
  have fed : reader.feed '"' = ⟨[], outside reader.record reader.awk⟩ := by rw [← top]; rfl
  rw [fed]
  refine ⟨rfl, between.depth, between.colon, between.notes, ?_, rfl, fun escaped => ?_⟩
  · simp [outside, between.acc]
  · have unescaped : reader.awk.esc = true := escaped
    simp [between.esc] at unescaped

theorem within_char (within : Within depth colon notes content reader) (notQuote : c ≠ '"')
    (even : trailingBackslashes (reader.record ++ [c]) % 2 = 0) : Within depth colon notes (content ++ [c]) (reader.feed c) := by
  have fed : reader.feed c = ⟨reader.record ++ [c], reader.awk⟩ := if_neg notQuote
  rw [fed]
  refine ⟨within.instr, within.depth, within.isval, within.notes, ?_, even, fun escaped => ?_⟩
  · rw [← within.text, List.append_assoc]
  · exact List.mem_append_left _ (within.escaped escaped)

theorem within_plain (within : Within depth colon notes content reader) (notQuote : c ≠ '"')
    (notBackslash : c ≠ '\\') : Within depth colon notes (content ++ [c]) (reader.feed c) :=
  within_char within notQuote (by rw [trailing_concat, if_neg notBackslash])

-- An escape keeps the parity of the backslashes at the end, whatever its second
-- character is: a quote starts a new record, a backslash makes two, any other breaks
-- the run.
theorem within_escape (c : Char) (within : Within depth colon notes content reader) :
    Within depth colon notes (content ++ ['\\', c]) (reader.feeds ['\\', c]) := by
  have fed : reader.feeds ['\\', c] = Reader.feed ⟨reader.record ++ ['\\'], reader.awk⟩ c := rfl
  have even := within.even
  have odd : trailingBackslashes (reader.record ++ ['\\']) = trailingBackslashes reader.record + 1 := by
    rw [trailing_concat, if_pos rfl]
  rw [fed]
  by_cases quote : c = '"'
  · subst c
    have top : awkTop reader.awk (reader.record ++ ['\\']) =
        { reader.awk with acc := reader.awk.acc ++ (reader.record ++ ['\\']) ++ ['"'], esc := true } := by
      simp only [awkTop, within.instr, if_true, inside]
      rw [if_pos (by omega)]
    refine ⟨?_, ?_, ?_, ?_, ?_, rfl, fun _ => by simp⟩
    · simp only [Reader.feed, if_true, top, within.instr]
    · simp only [Reader.feed, if_true, top, within.depth]
    · simp only [Reader.feed, if_true, top, within.isval]
    · simp only [Reader.feed, if_true, top]
      exact within.notes
    · simp only [Reader.feed, if_true, top, ← within.text]
      simp
  · have fine : trailingBackslashes (reader.record ++ ['\\'] ++ [c]) % 2 = 0 := by
      rw [trailing_concat]
      split
      · omega
      · rfl
    simp only [Reader.feed, if_neg quote]
    refine ⟨within.instr, within.depth, within.isval, within.notes, ?_, fine, fun _ => by simp⟩
    rw [← within.text]
    simp

theorem within_item (item : Item) (within : Within depth colon notes content reader) :
    Within depth colon notes (content ++ item.render) (reader.feeds item.render) := by
  have hex (c : HexDigit) : c.char ≠ '"' ∧ c.char ≠ '\\' := by
    have digit := c.hex
    constructor <;> intro same <;> rw [same] at digit <;> exact absurd digit (by decide)
  cases item with
  | plain unescaped => exact within_plain within unescaped.notQuote unescaped.notBackslash
  | escaped escape => exact within_escape _ within
  | unicode first second third fourth =>
      have one := within_plain (within_escape 'u' within) (hex first).1 (hex first).2
      have two := within_plain one (hex second).1 (hex second).2
      have three := within_plain two (hex third).1 (hex third).2
      have four := within_plain three (hex fourth).1 (hex fourth).2
      simp only [List.append_assoc, List.cons_append, List.nil_append] at four
      exact four

theorem within_items (items : List Item) (within : Within depth colon notes content reader) :
    Within depth colon notes (content ++ renderItems items) (reader.feeds (renderItems items)) := by
  induction items generalizing content reader with
  | nil =>
      have same : content ++ renderItems [] = content := List.append_nil content
      rw [same]
      exact within
  | cons item rest ih =>
      rw [render_items_cons, feeds_append, ← List.append_assoc]
      exact ih (within_item item within)

theorem member_notes (s : Awk) :
    (member content (content.contains '\\') s).notes =
      if s.isval then s.notes.readValue content else s.notes.readKey content := by
  unfold member
  cases s.isval with
  | false => rfl
  | true =>
      simp only [if_true]
      rw [apply_ite Awk.notes]
      rfl

theorem member_frame (content : Text) (bad : Bool) (s : Awk) :
    (member content bad s).instr = s.instr ∧ (member content bad s).acc = s.acc ∧ (member content bad s).esc = s.esc ∧
      (member content bad s).depth = s.depth := by
  unfold member
  split
  · split <;> exact ⟨rfl, rfl, rfl, rfl⟩
  · exact ⟨rfl, rfl, rfl, rfl⟩

theorem within_end (within : Within depth colon notes content reader) :
    Between depth false (notes.read depth colon content) (reader.feed '"') := by
  have bad : (reader.awk.esc || content.contains '\\') = content.contains '\\' := by
    cases escaped : reader.awk.esc with
    | false => rfl
    | true => simp [within.escaped escaped]
  have closes : ¬ trailingBackslashes reader.record % 2 = 1 := by
    rw [within.even]
    decide
  have top : awkTop reader.awk reader.record =
      if depth = 1 then member content (content.contains '\\') reader.awk.leaves else reader.awk.leaves := by
    simp only [awkTop, within.instr, if_true, inside, if_neg closes, within.text, bad, within.depth]
  have fed : reader.feed '"' = ⟨[], awkTop reader.awk reader.record⟩ := rfl
  have level : reader.awk.leaves.depth + net [] = depth := by
    rw [← within.depth]
    exact Int.add_zero _
  rw [fed, top]
  unfold Notes.read
  by_cases shallow : depth = 1
  · rw [if_pos shallow, if_pos shallow]
    obtain ⟨instr, acc, esc, same⟩ := member_frame content (content.contains '\\') reader.awk.leaves
    refine ⟨instr, acc, esc, by rw [← level, ← same], rfl, ?_⟩
    have isval : reader.awk.leaves.isval = colon := within.isval
    have noted : reader.awk.leaves.notes = notes := within.notes
    dsimp only
    rw [member_notes, isval, noted]
  · rw [if_neg shallow, if_neg shallow]
    exact ⟨rfl, rfl, rfl, level, rfl, within.notes⟩

theorem between_string (items : List Item) (between : Between depth colon notes reader) :
    Between depth false (notes.read depth colon (renderItems items)) (reader.feeds (renderString items)) := by
  unfold renderString
  rw [feeds_cons, feeds_append]
  exact within_end (within_items items (within_start between))

end

end AiWorld.Hook

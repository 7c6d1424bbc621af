import AiWorld.Hook.Reader

set_option autoImplicit false

namespace AiWorld.Hook

open AiWorld.Json

-- Reading the text at this depth changes no note and comes back to the depth.
def Passes (depth : Int) (text : Text) : Prop :=
  ∀ colon notes reader, Between depth colon notes reader → ∃ after, Between depth after notes (reader.feeds text)

variable {depth : Int} {content : Text}

theorem passes_append {first second : Text} (one : Passes depth first) (two : Passes depth second) :
    Passes depth (first ++ second) := by
  intro colon notes reader between
  obtain ⟨after, passed⟩ := one colon notes reader between
  rw [feeds_append]
  exact two after notes _ passed

theorem passes_quiet {text : Text} (depth : Int) (quiet : Quiet text) : Passes depth text :=
  fun colon _ _ between => ⟨colon, between_quiet quiet between⟩

theorem passes_comma (depth : Int) : Passes depth [','] := by
  intro colon notes reader between
  have fed := between_char ',' between (by decide)
  have level : net [','] = 0 := rfl
  rw [level, Int.add_zero] at fed
  exact ⟨_, fed⟩

theorem passes_colon (depth : Int) : Passes depth [':'] := by
  intro colon notes reader between
  have fed := between_char ':' between (by decide)
  have level : net [':'] = 0 := rfl
  rw [level, Int.add_zero] at fed
  exact ⟨_, fed⟩

theorem passes_string (deep : depth ≠ 1) {items : List Item} : Passes depth (renderString items) := by
  intro colon notes reader between
  have read := between_string items between
  unfold Notes.read at read
  rw [if_neg deep] at read
  exact ⟨_, read⟩

theorem passes_bracketed {text : Text} (open' close : Char) (opening : net [open'] = 1) (closing : net [close] = -1)
    (notQuotes : open' ≠ '"' ∧ close ≠ '"') (inner : Passes (depth + 1) text) : Passes depth (open' :: (text ++ [close])) := by
  intro colon notes reader between
  have entered := between_char open' between notQuotes.1
  rw [opening] at entered
  obtain ⟨after, passed⟩ := inner _ _ _ entered
  have left := between_char close passed notQuotes.2
  rw [closing, Int.add_neg_cancel_right] at left
  rw [feeds_cons, feeds_append]
  exact ⟨_, left⟩

theorem passes_array {text : Text} (inner : Passes (depth + 1) text) : Passes depth ('[' :: (text ++ [']'])) :=
  passes_bracketed '[' ']' rfl rfl (by decide) inner

theorem passes_braces {text : Text} (inner : Passes (depth + 1) text) : Passes depth ('\x7b' :: (text ++ ['\x7d'])) :=
  passes_bracketed '\x7b' '\x7d' rfl rfl (by decide) inner

theorem passes_key (deep : depth ≠ 1) (key : Key) : Passes depth key.render :=
  passes_append (passes_append (passes_append (passes_quiet _ (space_quiet _)) (passes_string deep))
    (passes_quiet _ (space_quiet _))) (passes_append (passes_colon _) (passes_quiet _ (space_quiet _)))

mutual

-- Nothing below the top level is ever noted.
theorem value_passes (value : Value) (depth : Int) (deep : 1 < depth) : Passes depth value.render := by
  cases value with
  | string items => exact passes_string (by omega)
  | number number => exact passes_quiet _ (number_quiet)
  | word word => exact passes_quiet _ (word_quiet)
  | emptyArray space => exact passes_array (passes_quiet _ (space_quiet space))
  | array elements => exact passes_array (elements_pass elements (depth + 1) (by omega))
  | object object => exact object_passes depth (by omega)

theorem elements_pass (elements : Elements) (depth : Int) (deep : 1 < depth) : Passes depth elements.render := by
  cases elements with
  | last before value after =>
      exact passes_append (passes_append (passes_quiet _ (space_quiet _)) (value_passes value depth deep))
        (passes_quiet _ (space_quiet _))
  | more before value after rest =>
      have first := passes_append (passes_append (passes_quiet _ (space_quiet before)) (value_passes value depth deep))
        (passes_quiet _ (space_quiet after))
      exact passes_append first (passes_append (passes_comma _) (elements_pass rest depth deep))

theorem members_pass {members : Members} (depth : Int) (deep : 1 < depth) : Passes depth members.render := by
  cases members with
  | last key value after =>
      exact passes_append (passes_append (passes_key (by omega) key) (value_passes value depth deep))
        (passes_quiet _ (space_quiet _))
  | more key value after rest =>
      have first := passes_append (passes_append (passes_key (by omega) key) (value_passes value depth deep))
        (passes_quiet _ (space_quiet after))
      exact passes_append first (passes_append (passes_comma _) (members_pass depth deep))

theorem object_passes {object : Object} (depth : Int) (deep : 0 < depth) : Passes depth object.render := by
  cases object with
  | empty space => exact passes_braces (passes_quiet _ (space_quiet space))
  | members members => exact passes_braces (members_pass (depth + 1) (by omega))

end

def valueNoted (value : Value) (notes : Notes) : Notes :=
  match value with
  | .string items => notes.readValue (renderItems items)
  | _ => notes

def memberNoted (key : Key) (value : Value) (notes : Notes) : Notes := valueNoted value (notes.readKey (renderItems key.items))

def membersNoted : Members → Notes → Notes
  | .last key value _, notes => memberNoted key value notes
  | .more key value _ rest, notes => membersNoted rest (memberNoted key value notes)

def objectNoted : Object → Notes → Notes
  | .empty _, notes => notes
  | .members members, notes => membersNoted members notes

section
variable {notes : Notes} {reader : Reader}

theorem key_read (key : Key) (between : Between 1 false notes reader) :
    Between 1 true (notes.readKey (renderItems key.items)) (reader.feeds key.render) := by
  have named := between_quiet (space_quiet key.afterKey)
    (between_string key.items (between_quiet (space_quiet key.before) between))
  have separated : Between 1 true _ _ := between_char ':' named (by decide)
  unfold Key.render
  rw [feeds_append, feeds_append, feeds_append, feeds_cons]
  exact between_quiet (space_quiet key.beforeValue) separated

theorem value_read (value : Value) (between : Between 1 true notes reader) :
    ∃ after, Between 1 after (valueNoted value notes) (reader.feeds value.render) := by
  cases value with
  | string items => exact ⟨_, between_string items between⟩
  | number number => exact ⟨_, between_quiet (number_quiet) between⟩
  | word word => exact ⟨_, between_quiet (word_quiet) between⟩
  | emptyArray space => exact passes_array (passes_quiet _ (space_quiet space)) _ _ _ between
  | array elements => exact passes_array (elements_pass elements 2 (by omega)) _ _ _ between
  | object object => exact object_passes 1 (by omega) _ _ _ between

theorem member_read (key : Key) (value : Value) (space : Space) (between : Between 1 false notes reader) :
    ∃ after, Between 1 after (memberNoted key value notes) (reader.feeds (key.render ++ value.render ++ space.render)) := by
  obtain ⟨after, read⟩ := value_read value (key_read key between)
  rw [feeds_append, feeds_append]
  exact ⟨after, between_quiet (space_quiet space) read⟩

end

theorem members_read (members : Members) {notes : Notes} {reader : Reader} (between : Between 1 false notes reader) :
    ∃ after, Between 1 after (membersNoted members notes) (reader.feeds members.render) := by
  cases members with
  | last key value space => exact member_read key value space between
  | more key value space rest =>
      obtain ⟨after, read⟩ := member_read key value space between
      have separated : Between 1 false _ _ := between_char ',' read (by decide)
      unfold Members.render
      rw [feeds_append, feeds_cons]
      exact members_read rest separated

theorem object_read (object : Object) {colon : Bool} {notes : Notes} {reader : Reader} (between : Between 0 colon notes reader) :
    ∃ after, Between 0 after (objectNoted object notes) (reader.feeds object.render) := by
  have entered : Between 1 false _ _ := between_char '\x7b' between (by decide)
  cases object with
  | empty space => exact passes_braces (passes_quiet _ (space_quiet space)) _ _ _ between
  | members members =>
      obtain ⟨after, read⟩ := members_read members entered
      unfold Object.render
      rw [feeds_cons, feeds_append]
      exact ⟨_, between_char '\x7d' read (by decide)⟩

def noNotes : Notes := ⟨false, [], [], []⟩

theorem printed_lines (document : Document) :
    ((records document.render).foldl awkTop {}).printed = (objectNoted document.object noNotes).printed := by
  have start : Between 0 false noNotes ⟨[], {}⟩ := ⟨rfl, rfl, rfl, rfl, rfl, rfl⟩
  obtain ⟨after, read⟩ := object_read document.object (between_quiet (space_quiet document.before) start)
  have ended : Between 0 after (objectNoted document.object noNotes) (Reader.feeds ⟨[], {}⟩ document.render) := by
    unfold Document.render
    rw [feeds_append, feeds_append]
    exact between_quiet (space_quiet document.after) read
  have leaves : awkTop (Reader.feeds ⟨[], {}⟩ document.render).awk (Reader.feeds ⟨[], {}⟩ document.render).record =
      outside (Reader.feeds ⟨[], {}⟩ document.render).record (Reader.feeds ⟨[], {}⟩ document.render).awk :=
    if_neg (by simp [ended.instr])
  unfold records
  rw [records_feeds, leaves]
  exact congrArg Notes.printed ended.notes

-- The value of a member, if it is a short token written without escapes.
def tokenOf : Value → Option Text
  | .string items => (literal items).filter isToken
  | _ => none

def memberToken (name : Text) (key : Key) (value : Value) : Option Text :=
  if literal key.items = some name then tokenOf value else none

-- The first top-level member of this name with such a value.
def membersFirst (name : Text) : Members → Option Text
  | .last key value _ => memberToken name key value
  | .more key value _ rest => (memberToken name key value).or (membersFirst name rest)

def firstToken (name : Text) (document : Document) : Option Text :=
  match document.object with
  | .empty _ => none
  | .members members => membersFirst name members

def line (pair : Text × Text) : Text := pair.1 ++ '=' :: pair.2

-- What has been printed are these pairs, each name once.
structure Kept (pairs : List (Text × Text)) (notes : Notes) : Prop where
  printed : notes.printed = pairs.map line
  seen : ∀ name, name ∈ notes.seen ↔ name ∈ pairs.map Prod.fst
  allowed : ∀ pair ∈ pairs, allowed pair.1 = true
  tokens : ∀ pair ∈ pairs, isToken pair.2 = true

theorem lookup_isSome_iff (pairs : List (Text × Text)) (name : Text) :
    (pairs.lookup name).isSome = true ↔ name ∈ pairs.map Prod.fst := by
  induction pairs with
  | nil => simp
  | cons pair rest ih =>
      obtain ⟨key, value⟩ := pair
      rw [List.lookup_cons]
      by_cases same : name = key
      · simp [same]
      · simp [beq_eq_false_iff_ne.mpr same, same, ih]

-- A member is a string token under a literal name.
structure Pairs (key : Key) (items : List Item) : Prop where
  name : '\\' ∉ renderItems key.items
  value : '\\' ∉ renderItems items
  token : isToken (renderItems items) = true

theorem member_token_pairs {key : Key} {items : List Item} (pairs : Pairs key items) (name : Text) :
    memberToken name key (.string items) = if renderItems key.items = name then some (renderItems items) else none := by
  have value : tokenOf (.string items) = some (renderItems items) := by
    simp only [tokenOf]
    rw [literal_eq, if_neg pairs.value]
    simp [Option.filter, pairs.token]
  unfold memberToken
  rw [value, literal_eq, if_neg pairs.name]
  simp only [Option.some.injEq]

theorem member_token_none {key : Key} {items : List Item} (name : Text) (bare : ¬ Pairs key items) :
    memberToken name key (.string items) = none := by
  unfold memberToken
  by_cases named : '\\' ∈ renderItems key.items
  · rw [literal_eq, if_pos named]
    rfl
  have value : tokenOf (.string items) = none := by
    simp only [tokenOf]
    rw [literal_eq]
    by_cases escaped : '\\' ∈ renderItems items
    · rw [if_pos escaped]
      rfl
    · have notToken : ¬ isToken (renderItems items) = true := fun token => bare ⟨named, escaped, token⟩
      rw [if_neg escaped]
      simp [Option.filter, notToken]
  rw [value, ite_self]

theorem read_value_taken {notes : Notes} (pending : notes.haspend = true) (plain : '\\' ∉ content)
    (token : isToken content = true) (fresh : notes.pend ∉ notes.seen) :
    notes.readValue content = ⟨false, notes.pend, notes.pend :: notes.seen, notes.printed ++ [line (notes.pend, content)]⟩ := by
  unfold Notes.readValue
  rw [if_pos (by simp [pending, plain, token, fresh])]
  rfl

theorem read_value_passed {notes : Notes}
    (passed : notes.haspend = true → '\\' ∉ content → isToken content = true → notes.pend ∈ notes.seen) :
    (notes.readValue content).seen = notes.seen ∧ (notes.readValue content).printed = notes.printed := by
  unfold Notes.readValue
  split
  · rename_i taken
    simp only [Bool.and_eq_true, Bool.not_eq_true', List.contains_eq_mem, decide_eq_false_iff_not] at taken
    exact absurd (passed taken.1.1.1 taken.1.1.2 taken.1.2) taken.2
  · exact ⟨rfl, rfl⟩

-- One member adds the pair it stands for, unless its name already has one.
theorem member_kept (key : Key) (value : Value) {pairs : List (Text × Text)} (notes : Notes) (kept : Kept pairs notes) :
    ∃ more, Kept (pairs ++ more) (memberNoted key value notes) ∧ ∀ name, allowed name = true →
      (pairs ++ more).lookup name = (pairs.lookup name).or (memberToken name key value) := by
  have unchanged : ∀ later : Notes, later.seen = notes.seen → later.printed = notes.printed → Kept (pairs ++ []) later := by
    intro later seen printed
    rw [List.append_nil]
    exact ⟨printed.trans kept.printed, by rw [seen]; exact kept.seen, kept.allowed, kept.tokens⟩
  have nothing : ∀ name, memberToken name key value = none →
      (pairs ++ []).lookup name = (pairs.lookup name).or (memberToken name key value) := by
    intro name none
    rw [none, Option.or_none, List.append_nil]
  cases value with
  | string items =>
      have pends : (notes.readKey (renderItems key.items)).haspend = true ↔
          '\\' ∉ renderItems key.items ∧ allowed (renderItems key.items) = true := by simp [Notes.readKey]
      by_cases taken : Pairs key items ∧ allowed (renderItems key.items) = true ∧ renderItems key.items ∉ notes.seen
      · obtain ⟨token, fine, fresh⟩ := taken
        refine ⟨[(renderItems key.items, renderItems items)], ?_, fun name _ => ?_⟩
        · have noted : memberNoted key (.string items) notes = ⟨false, renderItems key.items, renderItems key.items :: notes.seen,
              notes.printed ++ [line (renderItems key.items, renderItems items)]⟩ :=
            read_value_taken (pends.mpr ⟨token.name, fine⟩) token.value token.token fresh
          rw [noted]
          refine ⟨by simp [kept.printed], fun name => ?_, ?_, ?_⟩
          · simp [kept.seen name, or_comm]
          · exact List.forall_mem_append.mpr ⟨kept.allowed, List.forall_mem_singleton.mpr fine⟩
          · exact List.forall_mem_append.mpr ⟨kept.tokens, List.forall_mem_singleton.mpr token.token⟩
        · rw [member_token_pairs token, List.lookup_append]
          congr 1
          by_cases same : renderItems key.items = name
          · simp [same]
          · simp [List.lookup_cons, same, beq_eq_false_iff_ne.mpr (Ne.symm same)]
      · refine ⟨[], ?_, fun name known => ?_⟩
        · have passed : (memberNoted key (.string items) notes).seen = notes.seen ∧
              (memberNoted key (.string items) notes).printed = notes.printed :=
            read_value_passed (fun pending plain token => by
              by_contra fresh
              exact taken ⟨⟨(pends.mp pending).1, plain, token⟩, (pends.mp pending).2, fresh⟩)
          exact unchanged _ passed.1 passed.2
        · by_cases token : Pairs key items
          · rw [member_token_pairs token, List.append_nil]
            by_cases same : renderItems key.items = name
            · subst name
              have seen : renderItems key.items ∈ notes.seen := by
                by_contra fresh
                exact taken ⟨token, known, fresh⟩
              have found := (lookup_isSome_iff pairs _).mpr ((kept.seen _).mp seen)
              rw [Option.or_of_isSome found]
            · rw [if_neg same, Option.or_none]
          · exact nothing name (member_token_none name token)
  | _ =>
      refine ⟨[], unchanged _ rfl rfl, fun name _ => nothing name ?_⟩
      unfold memberToken tokenOf
      split <;> rfl

theorem members_kept (members : Members) (pairs : List (Text × Text)) {notes : Notes} (kept : Kept pairs notes) :
    ∃ more, Kept (pairs ++ more) (membersNoted members notes) ∧ ∀ name, allowed name = true →
      (pairs ++ more).lookup name = (pairs.lookup name).or (membersFirst name members) := by
  cases members with
  | last key value space => exact member_kept key value notes kept
  | more key value space rest =>
      obtain ⟨first, noted, found⟩ := member_kept key value notes kept
      obtain ⟨others, read, later⟩ := members_kept rest _ noted
      refine ⟨first ++ others, ?_, fun name known => ?_⟩
      · rw [← List.append_assoc]
        exact read
      · rw [← List.append_assoc, later name known, found name known, Option.or_assoc]
        rfl

theorem document_kept (document : Document) :
    ∃ pairs, Kept pairs (objectNoted document.object noNotes) ∧
      ∀ name, allowed name = true → pairs.lookup name = firstToken name document := by
  have start : Kept [] noNotes := ⟨rfl, by simp [noNotes], by simp, by simp⟩
  unfold firstToken
  cases document.object with
  | empty space => exact ⟨[], start, fun _ _ => rfl⟩
  | members members =>
      obtain ⟨more, kept, found⟩ := members_kept members [] start
      exact ⟨more, kept, found⟩

-- A name and a value hold no newline, and a name no equals sign, so that a line's name
-- is what stands before its first equals sign.
theorem allowed_chars {name : Text} (known : allowed name = true) : '=' ∉ name ∧ '\n' ∉ name := by
  have listed : name ∈ allowList := List.contains_iff_mem.mp known
  have all : ∀ other ∈ allowList, '=' ∉ other ∧ '\n' ∉ other := by decide
  exact all name listed

theorem token_chars (token : isToken content = true) : '\n' ∉ content := by
  intro present
  simp only [isToken, Bool.and_eq_true, List.all_eq_true] at token
  exact absurd (token.2 '\n' present) (by decide)

-- A mark that begins with a newline is not found before the next newline.
theorem after_mark_skips (mark : Text) {text : Text} (rest : Text) (plain : '\n' ∉ text) :
    afterMark ('\n' :: mark) (text ++ rest) = afterMark ('\n' :: mark) rest := by
  induction text with
  | nil => rfl
  | cons c others ih =>
      have other : '\n' ≠ c := List.ne_of_not_mem_cons plain
      have differs : ¬ ('\n' :: mark).isPrefixOf (c :: (others ++ rest)) = true := by simp [List.isPrefixOf, other]
      rw [List.cons_append, afterMark, if_neg differs]
      exact ih (List.not_mem_of_not_mem_cons plain)

theorem names_prefix_iff {name : Text} (key rest : Text) (plain : '=' ∉ name) (simple : '=' ∉ key) :
    (name ++ ['=']).isPrefixOf (key ++ '=' :: rest) = true ↔ name = key := by
  induction name generalizing key with
  | nil =>
      cases key with
      | nil => simp [List.isPrefixOf]
      | cons c others =>
          have other : '=' ≠ c := List.ne_of_not_mem_cons simple
          simp [List.isPrefixOf, other]
  | cons d names ih =>
      cases key with
      | nil =>
          have other : d ≠ '=' := (List.ne_of_not_mem_cons plain).symm
          simp [List.isPrefixOf, other]
      | cons c others =>
          have inner := ih others (List.not_mem_of_not_mem_cons plain)
            (List.not_mem_of_not_mem_cons simple)
          simp only [List.cons_append, List.isPrefixOf, Bool.and_eq_true, beq_iff_eq, inner, List.cons.injEq]

-- The lines with their newlines in front.
def listing (pairs : List (Text × Text)) : Text := pairs.flatMap (fun pair => '\n' :: line pair)

theorem after_mark_listing (pairs : List (Text × Text)) (name : Text) (known : allowed name = true)
    (names : ∀ pair ∈ pairs, allowed pair.1 = true) (tokens : ∀ pair ∈ pairs, isToken pair.2 = true) :
    (afterMark ('\n' :: (name ++ ['='])) (listing pairs)).map (fun v => v.takeWhile (fun c => c ≠ '\n')) =
      pairs.lookup name := by
  induction pairs with
  | nil => rfl
  | cons pair rest ih =>
      obtain ⟨key, value⟩ := pair
      have ended : (listing rest).takeWhile (fun c => c ≠ '\n') = [] := by
        cases rest with
        | nil => rfl
        | cons pair others => rfl
      have plain : '\n' ∉ value := token_chars (tokens (key, value) (by simp))
      have named : '=' ∉ key ∧ '\n' ∉ key := allowed_chars (names (key, value) (by simp))
      have split : listing ((key, value) :: rest) = '\n' :: (key ++ '=' :: (value ++ listing rest)) := by simp [listing, line]
      have starts : ('\n' :: (name ++ ['='])).isPrefixOf ('\n' :: (key ++ '=' :: (value ++ listing rest))) = true ↔ name = key := by
        rw [← names_prefix_iff key (value ++ listing rest) (allowed_chars known).1 named.1]
        simp only [List.isPrefixOf, beq_self_eq_true, Bool.true_and]
      rw [split, afterMark, List.lookup_cons]
      by_cases same : name = key
      · have dropped : ('\n' :: (key ++ '=' :: (value ++ listing rest))).drop ('\n' :: (name ++ ['='])).length =
            value ++ listing rest := by
          subst name
          simp
        have kept : value.takeWhile (fun c => c ≠ '\n') = value :=
          List.takeWhile_eq_self_iff.mpr (fun c present => by simp [ne_of_mem_of_not_mem present plain])
        rw [if_pos (starts.mpr same), dropped, beq_iff_eq.mpr same, Option.map_some, List.takeWhile_append, kept, if_pos rfl,
          ended, List.append_nil]
      · have skips : '\n' ∉ key ++ '=' :: value := by simp [named.2, plain]
        have shape : key ++ '=' :: (value ++ listing rest) = (key ++ '=' :: value) ++ listing rest := by simp
        rw [if_neg (fun matched => same (starts.mp matched)), beq_eq_false_iff_ne.mpr same]
        dsimp only
        rw [shape, after_mark_skips _ _ skips]
        exact ih (fun pair present => names pair (List.mem_cons_of_mem _ present))
          (fun pair present => tokens pair (List.mem_cons_of_mem _ present))

theorem after_mark_shorter {c : Char} {mark t v : Text} (found : afterMark (c :: mark) t = some v) : v.length < t.length := by
  induction t with
  | nil => simp [afterMark] at found
  | cons d rest ih =>
      rw [afterMark] at found
      split at found
      · obtain rfl := Option.some.inj found
        simp only [List.length_drop, List.length_cons]
        omega
      · have shorter := ih found
        simp only [List.length_cons]
        omega

theorem pair_get_eq (pairs key : Text) :
    pairGet pairs key = ((afterMark ('\n' :: (key ++ ['='])) ('\n' :: pairs)).map
      (fun v => v.takeWhile (fun c => c ≠ '\n'))).getD [] := by
  simp only [pairGet]
  cases found : afterMark ('\n' :: (key ++ ['='])) ('\n' :: pairs) with
  | none => exact if_pos rfl
  | some v =>
      have shorter := after_mark_shorter found
      refine if_neg (fun same => ?_)
      rw [Option.getD_some] at same
      rw [same] at shorter
      exact Nat.lt_irrefl _ shorter

theorem lines_listing (pairs : List (Text × Text)) :
    '\n' :: (pairs.map line).flatMap (fun text => text ++ ['\n']) = listing pairs ++ ['\n'] := by
  induction pairs with
  | nil => rfl
  | cons pair rest ih =>
      have moved : (line pair ++ ['\n']) ++ (rest.map line).flatMap (fun text => text ++ ['\n']) =
          line pair ++ (listing rest ++ ['\n']) := by rw [← ih]; simp
      rw [List.map_cons, List.flatMap_cons, moved]
      simp [listing]

-- What a command substitution makes of the printed lines.
theorem substituted_lines (pairs : List (Text × Text)) (nonempty : pairs ≠ []) (tokens : ∀ pair ∈ pairs, isToken pair.2 = true) :
    '\n' :: substituted ((pairs.map line).flatMap (fun text => text ++ ['\n'])) = listing pairs := by
  obtain ⟨init, ⟨key, value⟩, rfl⟩ := (List.eq_nil_or_concat pairs).resolve_left nonempty
  have token : isToken value = true := tokens (key, value) (by simp)
  simp only [isToken, Bool.and_eq_true, decide_eq_true_eq, List.all_eq_true] at token
  obtain ⟨front, last, rfl⟩ := (List.eq_nil_or_concat value).resolve_left (List.ne_nil_of_length_pos token.1.1)
  have ends : ¬ last = '\n' := by
    rintro rfl
    exact absurd (token.2 '\n' (by simp)) (by decide)
  let body : Text := (init.map line).flatMap (fun text => text ++ ['\n']) ++ (key ++ '=' :: front)
  have lines : ((init ++ [(key, front ++ [last])]).map line).flatMap (fun text => text ++ ['\n']) = body ++ [last] ++ ['\n'] := by
    simp [body, line]
  have dropped : substituted (body ++ [last] ++ ['\n']) = body ++ [last] := by
    unfold substituted
    rw [List.rdropWhile_concat_pos _ _ _ (by decide), List.rdropWhile_concat_neg _ _ _ (by simpa using ends)]
  have listed := lines_listing (init ++ [(key, front ++ [last])])
  rw [lines, ← List.cons_append] at listed
  rw [List.concat_eq_append, List.concat_eq_append, lines, dropped]
  exact List.append_cancel_right listed

-- `pair_get` on what `top_pairs` prints is the first top-level member of that name whose
-- value is a short token.
theorem pair_get_top_pairs (document : Document) (name : Text) (known : allowed name = true) :
    pairGet (substituted (topPairs document.render)) name = (firstToken name document).getD [] := by
  obtain ⟨pairs, kept, found⟩ := document_kept document
  unfold topPairs
  rw [printed_lines, kept.printed, pair_get_eq, ← found name known]
  by_cases empty : pairs = []
  · subst pairs
    have missing : afterMark ('\n' :: (name ++ ['='])) ['\n'] = none := by
      cases name <;> simp [afterMark, List.isPrefixOf]
    exact congrArg (fun found => (Option.map _ found).getD []) missing
  · rw [substituted_lines pairs empty kept.tokens, after_mark_listing pairs name known kept.allowed kept.tokens]

namespace Sample

def name : List Item := [.plain ⟨'i', by decide, by decide, by decide⟩, .plain ⟨'d', by decide, by decide, by decide⟩]

def key : Key := ⟨[], name, [], [.space]⟩

def nested : Value := .object (.members (.last key (.string name) []))

def escaped : Value := .string [.escaped .quote]

-- An `id` below the top level, one whose value is an escape, then the one that counts.
def document : Document := ⟨[], .members (.more key nested [] (.more key escaped [.tab] (.last key (.string name) []))), []⟩

end Sample

theorem pair_get_top_pairs_sample :
    allowed "id".toList = true ∧ pairGet (substituted (topPairs Sample.document.render)) "id".toList = "id".toList :=
  ⟨by decide, (pair_get_top_pairs Sample.document "id".toList (by decide)).trans (by decide)⟩

end AiWorld.Hook

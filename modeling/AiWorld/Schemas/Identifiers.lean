import AiWorld.Api.Requests
import AiWorld.Projects.Lots
import AiWorld.Text.Regex

set_option autoImplicit false

namespace AiWorld.Schemas

open AiWorld.Api AiWorld.Regex

-- Why a body is refused with a 422: a field that is too long, or the `ValueError` of a
-- validator of a field or of the whole body.
inductive Invalid where
  | tooLong (field : String) (most : Nat)
  | value (field : Option String) (message : String)
deriving DecidableEq, Repr

def maxLength (field : String) (most : Nat) : Option String → Except Invalid Unit
  | some text => if text.length ≤ most then .ok () else .error (.tooLong field most)
  | none => .ok ()

def refClass : CharClass := [('A', 'Z'), ('a', 'z'), ('0', '9'), ('.', '.'), ('_', '_'), ('-', '-')]

def refPattern : Pattern := .seq .start (.seq (.run refClass 1 (some 64)) .finish)

def validateRefShape (field : String) (value : Option String) : Except Invalid (Option String) :=
  if value.any (fun text => !refPattern.matches text) then
    .error (.value (some field) "must be 1-64 characters of letters, digits, '.', '_' or '-'.")
  else .ok value

def refField (field : String) (value : Option String) : Except Invalid (Option String) := do
  maxLength field 64 value
  validateRefShape field value

structure AgentRuntimeSessionCreateRequest where
  kind : AgentRuntimeKind
  agentType : Option String
  externalSessionRef : Option String
  externalInstanceRef : Option String
  parentExternalSessionRef : Option String
deriving DecidableEq, Repr

-- A missing string is as good as an empty one.
def given (value : Option String) : Bool := value.any (fun text => text ≠ "")

section
variable (uuid : String → Option Nat)

-- `uuid` is the parser of the standard library, `uuid.UUID`.
def validateKindSpecificFields (body : AgentRuntimeSessionCreateRequest) :
    Except Invalid AgentRuntimeSessionCreateRequest :=
  match body.kind with
  | .session =>
      match body.externalSessionRef with
      | none => .error (.value none "external_session_ref is required for kind='session'.")
      | some text =>
          if text = "" then .error (.value none "external_session_ref is required for kind='session'.")
          else
            match uuid text with
            | none => .error (.value none "external_session_ref must be a UUID for kind='session'.")
            | some id => .ok { body with externalSessionRef := some (Projects.uuidText id) }
  | .subagent =>
      if given body.externalInstanceRef then
        if given body.parentExternalSessionRef then .ok body
        else .error (.value none "parent_external_session_ref is required for kind='subagent'.")
      else .error (.value none "external_instance_ref is required for kind='subagent'.")

def AgentRuntimeSessionCreateRequest.validate (body : AgentRuntimeSessionCreateRequest) :
    Except Invalid AgentRuntimeSessionCreateRequest := do
  maxLength "agent_type" 512 body.agentType
  maxLength "external_session_ref" 64 body.externalSessionRef
  let instanceRef ← refField "external_instance_ref" body.externalInstanceRef
  let parentRef ← refField "parent_external_session_ref" body.parentExternalSessionRef
  validateKindSpecificFields uuid
    { body with externalInstanceRef := instanceRef, parentExternalSessionRef := parentRef }

-- What the handler does with a body: it goes by the kind, and a validated body has the
-- fields of its kind.
def receives (user : User) (body : AgentRuntimeSessionCreateRequest) : Except Invalid (Option Request) := do
  let accepted ← body.validate uuid
  return match accepted.kind with
  | .session => accepted.externalSessionRef.map (Request.registerSession user)
  | .subagent =>
      accepted.externalInstanceRef.bind (fun instanceRef => accepted.parentExternalSessionRef.map (fun parentRef =>
        Request.registerSubagent user ⟨accepted.agentType, instanceRef, parentRef⟩))

end

def codeFirst : CharClass := [('A', 'Z'), ('0', '9')]

def codeRest : CharClass := [('A', 'Z'), ('0', '9'), ('_', '_'), ('-', '-')]

def codePattern : Pattern := .seq .start (.seq (.one codeFirst) (.seq (.run codeRest 0 none) .finish))

def codeMaxLength : Nat := 20

def nameMaxLength : Nat := 80

structure ProjectCreateRequest where
  code : String
  name : String
deriving DecidableEq, Repr

def validateCode (value : String) : Except Invalid String :=
  if ¬(1 ≤ value.length ∧ value.length ≤ codeMaxLength) ∨ codePattern.matches value = false then
    .error (.value (some "code") "code must be 1-20 characters matching ^[A-Z0-9][A-Z0-9_-]*$")
  else .ok value

def validateName (value : String) : Except Invalid String :=
  if ¬(1 ≤ value.length ∧ value.length ≤ nameMaxLength) then
    .error (.value (some "name") "name must be 1-80 characters")
  else if value.toList.any (fun char => char.toNat < 0x20 ∨ char.toNat = 0x7F) then
    .error (.value (some "name") "name must not contain control characters")
  else .ok value

def ProjectCreateRequest.validate (body : ProjectCreateRequest) : Except Invalid ProjectCreateRequest := do
  let code ← validateCode body.code
  let name ← validateName body.name
  return ⟨code, name⟩

-- The languages the messages and comments describe.
def RefLetter (char : Char) : Prop := char.isAlphanum = true ∨ char = '.' ∨ char = '_' ∨ char = '-'

structure DocumentedRef (text : String) : Prop where
  nonempty : 1 ≤ text.length
  bounded : text.length ≤ 64
  letters : ∀ char ∈ text.toList, RefLetter char

def CodeFirst (char : Char) : Prop := char.isUpper = true ∨ char.isDigit = true

def CodeLetter (char : Char) : Prop := CodeFirst char ∨ char = '_' ∨ char = '-'

structure DocumentedCode (text : String) : Prop where
  nonempty : 1 ≤ text.length
  bounded : text.length ≤ 20
  first : ∀ char, text.toList.head? = some char → CodeFirst char
  letters : ∀ char ∈ text.toList.tail, CodeLetter char

theorem single_range (char other : Char) : (other ≤ char ∧ char ≤ other) ↔ char = other :=
  ⟨fun between => Char.le_antisymm between.2 between.1, fun same => same ▸ ⟨Char.le_refl _, Char.le_refl _⟩⟩

theorem upper_range (char : Char) : ('A' ≤ char ∧ char ≤ 'Z') ↔ char.isUpper = true := by
  change _ ↔ decide ('A'.val ≤ char.val ∧ char.val ≤ 'Z'.val) = true
  rw [decide_eq_true_eq]
  exact Iff.rfl

theorem lower_range (char : Char) : ('a' ≤ char ∧ char ≤ 'z') ↔ char.isLower = true := by
  change _ ↔ (decide ('a'.val ≤ char.val) && decide (char.val ≤ 'z'.val)) = true
  rw [Bool.and_eq_true, decide_eq_true_eq, decide_eq_true_eq]
  exact Iff.rfl

theorem digit_range (char : Char) : ('0' ≤ char ∧ char ≤ '9') ↔ char.isDigit = true := by
  simp only [Char.isDigit, Bool.and_eq_true, decide_eq_true_eq]
  exact Iff.rfl

theorem alphanum_eq (char : Char) : char.isAlphanum = ((char.isUpper || char.isLower) || char.isDigit) := rfl

theorem ref_class_iff (char : Char) : refClass.allows char = true ↔ RefLetter char := by
  simp only [CharClass.allows, refClass, List.any_cons, List.any_nil, Bool.or_eq_true, decide_eq_true_eq, Bool.false_eq_true,
    or_false, single_range, upper_range, lower_range, digit_range, RefLetter, alphanum_eq, or_assoc]

theorem code_first_iff (char : Char) : codeFirst.allows char = true ↔ CodeFirst char := by
  simp only [CharClass.allows, codeFirst, List.any_cons, List.any_nil, Bool.or_eq_true, decide_eq_true_eq, Bool.false_eq_true,
    or_false, upper_range, digit_range, CodeFirst]

theorem code_rest_iff (char : Char) : codeRest.allows char = true ↔ CodeLetter char := by
  simp only [CharClass.allows, codeRest, List.any_cons, List.any_nil, Bool.or_eq_true, decide_eq_true_eq, Bool.false_eq_true,
    or_false, single_range, upper_range, digit_range, CodeLetter, CodeFirst, or_assoc]

-- What `$` lets through at the end of a text.
theorem ends_iff (text word : List Char) {rest : List Char} (finished : rest = [] ∨ rest = ['\n']) :
    text = word ++ rest → text = word ∨ text = word ++ ['\n'] := by
  rintro rfl
  exact finished.imp (fun none => by rw [none, List.append_nil]) (fun newline => by rw [newline])

theorem ref_matches_iff (text : String) :
    refPattern.matches text = true ↔
      ∃ word, Taken refClass 1 (some 64) word ∧ (text.toList = word ∨ text.toList = word ++ ['\n']) := by
  simp only [matches_iff, refPattern, mem_rests_seq, mem_rests_start, mem_rests_run, mem_rests_finish]
  constructor
  · rintro ⟨rest, _, ⟨rfl, -⟩, _, ⟨word, split, taken⟩, rfl, finished⟩
    exact ⟨word, taken, ends_iff _ _ finished split⟩
  · rintro ⟨word, taken, same | newline⟩
    · exact ⟨[], _, ⟨rfl, trivial⟩, [], ⟨word, by simpa using same, taken⟩, rfl, .inl rfl⟩
    · exact ⟨['\n'], _, ⟨rfl, trivial⟩, ['\n'], ⟨word, newline, taken⟩, rfl, .inr rfl⟩

theorem code_matches_iff (text : String) :
    codePattern.matches text = true ↔
      ∃ first word, codeFirst.allows first = true ∧ Taken codeRest 0 none word ∧
        (text.toList = first :: word ∨ text.toList = first :: word ++ ['\n']) := by
  simp only [matches_iff, codePattern, mem_rests_seq, mem_rests_start, mem_rests_one, mem_rests_run, mem_rests_finish]
  constructor
  · rintro ⟨rest, _, ⟨rfl, -⟩, _, ⟨first, begins, allowed⟩, _, ⟨word, rfl, taken⟩, rfl, finished⟩
    exact ⟨first, word, allowed, taken, ends_iff _ _ finished begins⟩
  · rintro ⟨first, word, allowed, taken, same | newline⟩
    · exact ⟨[], _, ⟨rfl, trivial⟩, word, ⟨first, same, allowed⟩, [], ⟨word, by simp, taken⟩, rfl, .inl rfl⟩
    · exact ⟨['\n'], _, ⟨rfl, trivial⟩, word ++ ['\n'], ⟨first, newline, allowed⟩, ['\n'], ⟨word, rfl, taken⟩, rfl, .inr rfl⟩

theorem newline_iff (text word : String) : text.toList = word.toList ++ ['\n'] ↔ text = word ++ "\n" := by
  rw [← String.toList_inj, String.toList_append]
  exact Iff.rfl

theorem newline_length (word : String) : (word ++ "\n").length = word.length + 1 := by
  rw [String.length_append]
  rfl

theorem ref_accepted_iff (field text : String) :
    refField field (some text) = .ok (some text) ↔
      text.length ≤ 64 ∧ ∃ word, DocumentedRef word ∧ (text = word ∨ text = word ++ "\n") := by
  have taken_iff : ∀ word : String, Taken refClass 1 (some 64) word.toList ↔ DocumentedRef word := fun word =>
    ⟨fun taken => ⟨taken.enough, taken.few, fun char member => (ref_class_iff char).mp (taken.allowed char member)⟩,
      fun documented => ⟨fun char member => (ref_class_iff char).mpr (documented.letters char member), documented.nonempty,
        documented.bounded⟩⟩
  have spelled : refPattern.matches text = true ↔ ∃ word, DocumentedRef word ∧ (text = word ∨ text = word ++ "\n") := by
    rw [ref_matches_iff]
    constructor
    · rintro ⟨word, taken, ends⟩
      refine ⟨String.ofList word, (taken_iff _).mp (by simpa using taken), ends.imp (fun same => ?_) (fun newline => ?_)⟩
      · exact String.toList_inj.mp (by simpa using same)
      · exact (newline_iff _ _).mp (by simpa using newline)
    · rintro ⟨word, documented, ends⟩
      exact ⟨word.toList, (taken_iff word).mpr documented, ends.imp (congrArg String.toList) (newline_iff text word).mpr⟩
  rw [← spelled]
  by_cases short : text.length ≤ 64
  · cases shape : refPattern.matches text <;> simp [refField, maxLength, validateRefShape, short, shape, bind, Except.bind]
  · simp [refField, maxLength, short, bind, Except.bind]

theorem code_word_iff {text : String} (short : text.length ≤ 20) :
    DocumentedCode text ↔
      ∃ first word, text.toList = first :: word ∧ codeFirst.allows first = true ∧ Taken codeRest 0 none word := by
  constructor
  · intro documented
    cases spelled : text.toList with
    | nil =>
        have nonempty := documented.nonempty
        rw [← String.length_toList, spelled] at nonempty
        cases nonempty
    | cons first word =>
        refine ⟨first, word, rfl, (code_first_iff first).mpr (documented.first first (by rw [spelled]; rfl)), ?_, Nat.zero_le _,
          trivial⟩
        intro char member
        exact (code_rest_iff char).mpr (documented.letters char (by rw [spelled]; exact member))
  · rintro ⟨first, word, spelled, allowed, taken⟩
    refine ⟨?_, short, fun char head => ?_, fun char member => ?_⟩
    · rw [← String.length_toList, spelled]
      exact Nat.succ_pos _
    · rw [spelled] at head
      cases head
      exact (code_first_iff first).mp allowed
    · rw [spelled] at member
      exact (code_rest_iff char).mp (taken.allowed char member)

theorem code_accepted_iff (text : String) :
    validateCode text = .ok text ↔
      text.length ≤ 20 ∧ ∃ word, DocumentedCode word ∧ (text = word ∨ text = word ++ "\n") := by
  have accepts : validateCode text = .ok text ↔ (1 ≤ text.length ∧ text.length ≤ 20) ∧ codePattern.matches text = true := by
    by_cases bounds : 1 ≤ text.length ∧ text.length ≤ 20
    · cases shape : codePattern.matches text <;> simp [validateCode, codeMaxLength, bounds, shape]
    · simp [validateCode, codeMaxLength, bounds]
  rw [accepts, code_matches_iff]
  constructor
  · rintro ⟨⟨-, short⟩, first, word, allowed, taken, ends⟩
    have made : DocumentedCode (String.ofList (first :: word)) := by
      refine (code_word_iff ?_).mpr ⟨first, word, by simp, allowed, taken⟩
      rcases ends with same | newline
      · rw [← same, String.ofList_toList]
        exact short
      · have length := congrArg List.length newline
        simp only [String.length_toList, List.length_append, List.length_cons] at length
        simp only [String.length_ofList, List.length_cons]
        omega
    refine ⟨short, _, made, ends.imp (fun same => ?_) (fun newline => ?_)⟩
    · exact String.toList_inj.mp (by simpa using same)
    · exact (newline_iff _ _).mp (by simpa using newline)
  · rintro ⟨short, word, documented, ends⟩
    obtain ⟨first, rest, spelled, allowed, taken⟩ := (code_word_iff documented.bounded).mp documented
    refine ⟨⟨?_, short⟩, first, rest, allowed, taken, ?_⟩
    · have nonempty := documented.nonempty
      rcases ends with rfl | rfl
      · exact nonempty
      · rw [newline_length]
        omega
    · rw [← spelled]
      exact ends.imp (congrArg String.toList) (newline_iff text word).mpr

-- An anchored pattern that lets one newline through accepts just the documented words,
-- except for those that have a newline behind them.
theorem documented_iff {accepted documented : String → Prop} (most : Nat)
    (accepts : ∀ text, accepted text ↔ text.length ≤ most ∧ ∃ word, documented word ∧ (text = word ∨ text = word ++ "\n"))
    (bounded : ∀ text, documented text → text.length ≤ most) (plain : ∀ text, documented text → '\n' ∉ text.toList)
    (text : String) :
    (accepted text ↔ documented text) ↔ ¬ ∃ word, documented word ∧ word.length < most ∧ text = word ++ "\n" := by
  constructor
  · rintro same ⟨word, fits, short, rfl⟩
    have length := newline_length word
    have inside : documented (word ++ "\n") := same.mp ((accepts _).mpr ⟨by omega, word, fits, .inr rfl⟩)
    exact plain _ inside (by simp)
  · intro clear
    refine ⟨fun taken => ?_, fun fits => (accepts text).mpr ⟨bounded text fits, text, fits, .inl rfl⟩⟩
    obtain ⟨short, word, fits, rfl | rfl⟩ := (accepts text).mp taken
    · exact fits
    · have length := newline_length word
      exact absurd ⟨word, fits, by omega, rfl⟩ clear

theorem ref_plain (text : String) (documented : DocumentedRef text) : '\n' ∉ text.toList := by
  intro member
  have letter := documented.letters '\n' member
  revert letter
  unfold RefLetter
  decide

theorem code_plain (text : String) (documented : DocumentedCode text) : '\n' ∉ text.toList := by
  intro member
  obtain ⟨first, word, spelled, allowed, taken⟩ := (code_word_iff documented.bounded).mp documented
  rw [spelled, List.mem_cons] at member
  rcases member with rfl | inside
  · exact absurd allowed (by decide)
  · exact absurd (taken.allowed '\n' inside) (by decide)

theorem identifiers_documented_iff (field text : String) :
    ((refField field (some text) = .ok (some text) ↔ DocumentedRef text) ↔
      ¬ ∃ word, DocumentedRef word ∧ word.length < 64 ∧ text = word ++ "\n") ∧
    ((validateCode text = .ok text ↔ DocumentedCode text) ↔
      ¬ ∃ word, DocumentedCode word ∧ word.length < 20 ∧ text = word ++ "\n") :=
  ⟨documented_iff 64 (ref_accepted_iff field) (fun _ documented => documented.bounded) ref_plain text,
    documented_iff 20 code_accepted_iff (fun _ documented => documented.bounded) code_plain text⟩

-- A newline behind a word goes into the database with it.
theorem newline_accepted :
    refField "external_instance_ref" (some "a\n") = .ok (some "a\n") ∧ ¬ DocumentedRef "a\n" ∧
      validateCode "A\n" = .ok "A\n" ∧ ¬ DocumentedCode "A\n" := by
  refine ⟨by decide +kernel, fun documented => ref_plain _ documented (by decide), by decide +kernel,
    fun documented => code_plain _ documented (by decide)⟩

theorem bind_ok {ε α β : Type} (first : Except ε α) (follow : α → Except ε β) (result : β) :
    (first >>= follow) = .ok result ↔ ∃ value, first = .ok value ∧ follow value = .ok result := by
  cases first <;> simp [bind, Except.bind]

theorem name_accepted_iff (text name : String) :
    validateName text = .ok name ↔
      name = text ∧ (1 ≤ text.length ∧ text.length ≤ 80) ∧ ∀ char ∈ text.toList, 0x20 ≤ char.toNat ∧ char.toNat ≠ 0x7F := by
  have clear : text.toList.any (fun char => char.toNat < 0x20 ∨ char.toNat = 0x7F) = false ↔
      ∀ char ∈ text.toList, 0x20 ≤ char.toNat ∧ char.toNat ≠ 0x7F := by simp
  rw [← clear]
  unfold validateName nameMaxLength
  grind

-- A project's request goes through unchanged, and only with a documented code, which a
-- newline may follow, and a name without control characters.
theorem project_request_accepted_iff (body accepted : ProjectCreateRequest) :
    body.validate = .ok accepted ↔ accepted = body ∧
      (body.code.length ≤ 20 ∧ ∃ word, DocumentedCode word ∧ (body.code = word ∨ body.code = word ++ "\n")) ∧
      (1 ≤ body.name.length ∧ body.name.length ≤ 80) ∧ ∀ char ∈ body.name.toList, 0x20 ≤ char.toNat ∧ char.toNat ≠ 0x7F := by
  have same : ∀ code, validateCode body.code = .ok code → code = body.code := fun code passes => by
    unfold validateCode at passes
    split at passes
    next => cases passes
    next => exact (Except.ok.inj passes).symm
  rw [← code_accepted_iff]
  constructor
  · intro validated
    obtain ⟨code, coded, rest⟩ := (bind_ok _ _ _).mp validated
    obtain ⟨name, named, made⟩ := (bind_ok _ _ _).mp rest
    obtain rfl := same code coded
    obtain ⟨rfl, plain⟩ := (name_accepted_iff _ _).mp named
    exact ⟨(Except.ok.inj made).symm, coded, plain⟩
  · rintro ⟨rfl, coded, plain⟩
    have named := (name_accepted_iff accepted.name _).mpr ⟨rfl, plain⟩
    exact (bind_ok _ _ _).mpr ⟨_, coded, (bind_ok _ _ _).mpr ⟨_, named, rfl⟩⟩

theorem ref_field_same {field : String} {value result : Option String} (passes : refField field value = .ok result) :
    result = value := by
  obtain ⟨_, -, shaped⟩ := (bind_ok _ _ _).mp passes
  simp only [validateRefShape] at shaped
  split at shaped
  next => cases shaped
  next => exact (Except.ok.inj shaped).symm

section
variable (uuid : String → Option Nat)

-- Validation looks at the body as it is, and changes only the ref of a session.
theorem validated_fields {body accepted : AgentRuntimeSessionCreateRequest} (validated : body.validate uuid = .ok accepted) :
    validateKindSpecificFields uuid body = .ok accepted := by
  obtain ⟨_, -, rest⟩ := (bind_ok _ _ _).mp validated
  obtain ⟨_, -, rest⟩ := (bind_ok _ _ _).mp rest
  obtain ⟨instanceRef, shaped, rest⟩ := (bind_ok _ _ _).mp rest
  obtain ⟨parentRef, shapedToo, rest⟩ := (bind_ok _ _ _).mp rest
  rw [ref_field_same shaped, ref_field_same shapedToo] at rest
  exact rest

theorem session_received (user : User) (body : AgentRuntimeSessionCreateRequest) (request : Request) (text : String) (id : Nat)
    (kind : body.kind = .session) (given : body.externalSessionRef = some text) (parsed : uuid text = some id)
    (received : receives uuid user body = .ok (some request)) : request = .registerSession user (Projects.uuidText id) := by
  obtain ⟨accepted, validated, made⟩ := (bind_ok _ _ _).mp received
  have fields := validated_fields uuid validated
  by_cases empty : text = ""
  · simp [validateKindSpecificFields, kind, given, empty] at fields
  · simp only [validateKindSpecificFields, kind, given, if_neg empty, parsed] at fields
    cases fields
    simpa [kind, pure, Except.pure, eq_comm] using made

theorem subagent_received (user : User) (body : AgentRuntimeSessionCreateRequest) (request : Request) (text : String)
    (kind : body.kind = .subagent) (given : body.parentExternalSessionRef = some text)
    (received : receives uuid user body = .ok (some request)) :
    ∃ instanceRef, request = .registerSubagent user ⟨body.agentType, instanceRef, text⟩ := by
  obtain ⟨accepted, validated, made⟩ := (bind_ok _ _ _).mp received
  have fields := validated_fields uuid validated
  obtain rfl : body = accepted := by
    simp only [validateKindSpecificFields, kind] at fields
    split at fields
    next =>
      split at fields
      next => exact Except.ok.inj fields
      next => cases fields
    next => cases fields
  cases ref : body.externalInstanceRef with
  | none => simp [kind, ref, pure, Except.pure] at made
  | some instanceRef =>
      refine ⟨instanceRef, ?_⟩
      simpa [kind, ref, given, pure, Except.pure, eq_comm] using made

end

end AiWorld.Schemas

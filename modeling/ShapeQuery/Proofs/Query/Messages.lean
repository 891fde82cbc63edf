import ShapeQuery.Proofs.Text.Legibility
import ShapeQuery.Query.Error

/-!
# What a message says

The message of an error says everything about it: no two errors have the same one
(`message_eq_iff`). Names in messages are arbitrary and may look like messages themselves, and the
messages inside an aggregate follow each other without being counted.

The proof is about messages in a longer text. A message is legible before a semicolon, a closing
bracket or the end (`QueryError.legible`), which is what follows a message inside an aggregate. Its
first word gives its topic (`QueryError.Topic`), and all but two topics belong to one constructor
each. What comes after the first word, the details, is then compared constructor by constructor.
-/

namespace ShapeQuery

/-! ### Words in messages -/

/-- The characters that may follow a word in a message. None of them occurs in a word. -/
def Text.wordMarks : List Char := [' ', ',', ';', ']']

theorem ExprKind.notMem_wordMarks (kind : ExprKind) :
    ∀ c ∈ kind.name.toList, c ∉ Text.wordMarks := by
  cases kind <;> simp [name, Text.wordMarks]

theorem ExprKind.toList_name_ne_nil (kind : ExprKind) : kind.name.toList ≠ [] := by
  cases kind <;> simp [name]

theorem ExprKind.legible_name (kind : ExprKind) : Text.Legible Text.wordMarks name kind := by
  refine Text.legible_of_words (fun kind kind' h ↦ ?_) notMem_wordMarks kind
  exact Option.some.inj ((ofName?_name kind).symm.trans (h ▸ ofName?_name kind'))

theorem StatementKind.legible_name (kind : StatementKind) :
    Text.Legible Text.wordMarks name kind := by
  refine Text.legible_of_words (fun kind kind' h ↦ ?_) (fun kind ↦ ?_) kind
  · exact Option.some.inj ((ofName?_name kind).symm.trans (h ▸ ofName?_name kind'))
  · cases kind <;> simp [name, Text.wordMarks]

theorem Operator.legible_symbol (op : Operator) : Text.Legible Text.wordMarks symbol op := by
  refine Text.legible_of_words (fun op op' h ↦ ?_) (fun op ↦ ?_) op
  · exact Option.some.inj ((ofSymbol?_symbol op).symm.trans (h ▸ ofSymbol?_symbol op'))
  · cases op <;> simp [symbol, Text.wordMarks]

theorem Content.legible_name (content : Content) : Text.Legible Text.wordMarks name content := by
  refine Text.legible_of_words (fun content content' h ↦ ?_) (fun content ↦ ?_) content
  · cases content <;> cases content' <;> revert h <;> decide
  · cases content <;> simp [name, Text.wordMarks]

namespace QueryError

/-! ### Topics -/

/-- What the first word of a message tells. -/
inductive Topic where
  | expectation
  | operator
  | node (kind : ExprKind)
  | depth
  | search
  | callee
  | name
  | statement
  | attempts
deriving DecidableEq

namespace Topic

/-- The first word of a message on a topic. -/
def word : Topic → String
  | expectation => "expected"
  | operator => "operator"
  | node kind => kind.name
  | depth => "depth"
  | search => "no"
  | callee => "callee"
  | name => "name"
  | statement => "unsupported"
  | attempts => "all"

/-- The topics that are not a kind of node. -/
def fixed : List Topic :=
  [expectation, operator, depth, search, callee, name, statement, attempts]

/-- The topic whose messages start with a word. -/
def ofWord? (s : String) : Option Topic :=
  (ExprKind.ofName? s).map node <|> fixed.find? fun topic ↦ topic.word == s

/-- Reading the first word gives back the topic. In particular no kind of node has the first word of
another topic for its name. -/
theorem ofWord?_word (topic : Topic) : ofWord? topic.word = some topic := by
  cases topic with
  | node kind => simp [ofWord?, word]
  | _ => decide

theorem notMem_wordMarks (topic : Topic) : ∀ c ∈ topic.word.toList, c ∉ Text.wordMarks := by
  cases topic with
  | node kind => exact kind.notMem_wordMarks
  | _ => simp [word, Text.wordMarks]

theorem toList_word_ne_nil (topic : Topic) : topic.word.toList ≠ [] := by
  cases topic with
  | node kind => exact kind.toList_name_ne_nil
  | _ => simp [word]

theorem legible_word (topic : Topic) : Text.Legible Text.wordMarks word topic := by
  refine Text.legible_of_words (fun topic topic' h ↦ ?_) notMem_wordMarks topic
  exact Option.some.inj ((ofWord?_word topic).symm.trans (h ▸ ofWord?_word topic'))

end Topic

/-- The topic of a message. -/
def topic : QueryError → Topic
  | typeMismatch .. => .expectation
  | operatorMismatch _ => .operator
  | missingOperator kind => .node kind
  | structureMismatch kind => .node kind
  | contentMismatch _ kind => .node kind
  | depthExceeded => .depth
  | noMatch => .search
  | noIdentifier => .callee
  | nameMismatch _ => .name
  | missingNode => .expectation
  | unsupportedStatement _ => .statement
  | aggregate _ => .attempts

/-- A message after its first word. -/
def details : QueryError → String
  | typeMismatch expected actual =>
    Text.joined " or " (expected.map ExprKind.name) ++ (", was " ++ actual.name)
  | operatorMismatch op => op.symbol ++ " is not accepted"
  | missingOperator _ => "expression has no operator"
  | structureMismatch _ => "expression does not have the required structure"
  | contentMismatch content _ =>
    "node is not allowed where only " ++ (content.name ++ " are accepted")
  | depthExceeded => "budget exhausted"
  | noMatch => "matching node in subtree"
  | noIdentifier => "is not an identifier"
  | nameMismatch name => Text.quoted name ++ " does not match"
  | missingNode => "an expression, found none"
  | unsupportedStatement kind => "statement: " ++ kind.name
  | aggregate errors => "branches failed: [" ++ (Text.joined "; " (errors.map message) ++ "]")

theorem messages_eq_map (errors : List QueryError) : messages errors = errors.map message := by
  induction errors with
  | nil => rfl
  | cons err rest ih => rw [messages, ih, List.map_cons]

/-- A message is its first word and its details. -/
theorem message_eq (err : QueryError) : err.message = err.topic.word ++ " " ++ err.details := by
  rw [message.eq_def, details.eq_def]
  cases err with
  | missingOperator kind => simp [topic, Topic.word, String.append_assoc]
  | structureMismatch kind => simp [topic, Topic.word, String.append_assoc]
  | contentMismatch content kind =>
    have hwords : " node is not allowed where only " = " " ++ "node is not allowed where only " :=
      by simp
    simp only [topic, Topic.word, hwords, String.append_assoc]
  | _ => simp [topic, Topic.word, messages_eq_map, ← String.append_assoc]

theorem toList_message (err : QueryError) :
    err.message.toList = err.topic.word.toList ++ ' ' :: err.details.toList := by
  have hspace : " ".toList = [' '] := by simp
  rw [message_eq, String.toList_append, String.toList_append, hspace, List.append_assoc]
  rfl

/-! ### Details -/

/-- The characters that may follow a message inside another. -/
def marks : List Char := [';', ']']

section Details

variable {x y : QueryError} {r r' : List Char}

/-- The first word of a message ends at the first space. -/
theorem message_append_inj (h : x.message.toList ++ r = y.message.toList ++ r') :
    x.topic = y.topic ∧ x.details.toList ++ r = y.details.toList ++ r' := by
  rw [toList_message, toList_message, List.append_assoc, List.append_assoc] at h
  obtain ⟨htopic, hrest⟩ := x.topic.legible_word y.topic _ _ (.cons (by decide))
    (.cons (by decide)) h
  exact ⟨htopic, (List.cons.inj hrest).2⟩

/-- A message does not start with the bracket that ends a list of messages. -/
theorem message_append_ne_bracket : x.message.toList ++ r ≠ ']' :: r' := by
  rw [toList_message, List.append_assoc]
  exact Text.word_append_ne x.topic.notMem_wordMarks x.topic.toList_word_ne_nil (by decide)

/-- A message is legible if its details tell it apart from the messages on the same topic. -/
theorem legible_of_details (h : ∀ y r r', Text.AtMark marks r → Text.AtMark marks r' →
    x.topic = y.topic → x.details.toList ++ r = y.details.toList ++ r' → x = y ∧ r = r') :
    Text.Legible marks message x := by
  intro y r r' hr hr' hmessage
  obtain ⟨htopic, hdetails⟩ := message_append_inj hmessage
  exact h y r r' hr hr' htopic hdetails

theorem atMark_wordMarks (h : Text.AtMark marks r) : Text.AtMark Text.wordMarks r :=
  fun c hc ↦ List.mem_cons_of_mem _ (List.mem_cons_of_mem _ (h c hc))

theorem toList_or : " or ".toList = ' ' :: "or ".toList := by simp

/-- The list of kinds in the details of a mismatch ends at the comma. -/
theorem toList_details_typeMismatch (expected : List ExprKind) (actual : ExprKind) :
    (typeMismatch expected actual).details.toList ++ r =
      (Text.joined " or " (expected.map ExprKind.name)).toList ++
        ',' :: (" was ".toList ++ (actual.name.toList ++ r)) := by
  simp [details.eq_def]

/-- No kind is called "an". -/
theorem toList_details_typeMismatch_ne (expected : List ExprKind) (actual : ExprKind) :
    (typeMismatch expected actual).details.toList ++ r ≠ missingNode.details.toList ++ r' := by
  rw [toList_details_typeMismatch]
  intro h
  have hnode : missingNode.details.toList ++ r' =
      "an".toList ++ ' ' :: ("expression, found none".toList ++ r') := by simp [details.eq_def]
  rw [hnode] at h
  cases expected with
  | nil => exact absurd h (by simp [Text.joined])
  | cons kind rest =>
    rw [List.map_cons, Text.joined, String.toList_append, List.append_assoc] at h
    obtain ⟨hname, -⟩ := Text.words_append_inj kind.notMem_wordMarks
      (by simp [Text.wordMarks])
      (Text.atMark_separated toList_or (by decide) (by decide) _)
      (.cons (by decide)) h
    exact absurd (String.toList_injective hname) (by cases kind <;> decide)

theorem legible_typeMismatch (expected : List ExprKind) (actual : ExprKind) :
    Text.Legible marks message (typeMismatch expected actual) := by
  refine legible_of_details fun y r r' hr hr' htopic h ↦ ?_
  cases y with
  | typeMismatch expected' actual' =>
    rw [toList_details_typeMismatch, toList_details_typeMismatch] at h
    obtain ⟨rfl, hrest⟩ := Text.joined_append_inj toList_or (by decide) (by decide) (by decide)
      (fun kind _ _ ↦ Text.word_append_ne kind.notMem_wordMarks kind.toList_name_ne_nil (by decide))
      (fun kind _ ↦ kind.legible_name) h
    obtain ⟨rfl, rfl⟩ := actual.legible_name actual' r r' (atMark_wordMarks hr)
      (atMark_wordMarks hr') (List.append_cancel_left hrest)
    exact ⟨rfl, rfl⟩
  | missingNode => exact absurd h (toList_details_typeMismatch_ne expected actual)
  | _ => cases htopic

theorem legible_missingNode : Text.Legible marks message missingNode := by
  refine legible_of_details fun y r r' hr hr' htopic h ↦ ?_
  cases y with
  | typeMismatch expected actual =>
    exact absurd h.symm (toList_details_typeMismatch_ne expected actual)
  | missingNode => exact ⟨rfl, List.append_cancel_left h⟩
  | _ => cases htopic

/-- A message is legible if there is no other on its topic. -/
theorem legible_of_topic (hx : ∀ y : QueryError, x.topic = y.topic → x = y) :
    Text.Legible marks message x := by
  refine legible_of_details fun y r r' _ _ htopic h ↦ ?_
  obtain rfl := hx y htopic
  exact ⟨rfl, List.append_cancel_left h⟩

theorem legible_operatorMismatch (op : Operator) :
    Text.Legible marks message (operatorMismatch op) := by
  refine legible_of_details fun y r r' _ _ htopic h ↦ ?_
  cases y with
  | operatorMismatch op' =>
    have hmark : ∀ rest, Text.AtMark Text.wordMarks (" is not accepted".toList ++ rest) :=
      fun rest ↦ by simp [Text.AtMark, Text.wordMarks]
    rw [details.eq_def, details.eq_def] at h
    simp only [String.toList_append, List.append_assoc] at h
    obtain ⟨rfl, hrest⟩ := op.legible_symbol op' _ _ (hmark r) (hmark r') h
    exact ⟨rfl, List.append_cancel_left hrest⟩
  | _ => cases htopic

theorem legible_missingOperator (kind : ExprKind) :
    Text.Legible marks message (missingOperator kind) := by
  refine legible_of_details fun y r r' _ _ htopic h ↦ ?_
  cases y with
  | missingOperator kind' =>
    obtain rfl := Topic.node.inj htopic
    exact ⟨rfl, List.append_cancel_left h⟩
  | structureMismatch kind' => exact absurd h (by simp [details.eq_def])
  | contentMismatch content kind' => exact absurd h (by simp [details.eq_def])
  | _ => cases htopic

theorem legible_structureMismatch (kind : ExprKind) :
    Text.Legible marks message (structureMismatch kind) := by
  refine legible_of_details fun y r r' _ _ htopic h ↦ ?_
  cases y with
  | missingOperator kind' => exact absurd h (by simp [details.eq_def])
  | structureMismatch kind' =>
    obtain rfl := Topic.node.inj htopic
    exact ⟨rfl, List.append_cancel_left h⟩
  | contentMismatch content kind' => exact absurd h (by simp [details.eq_def])
  | _ => cases htopic

theorem legible_contentMismatch (content : Content) (kind : ExprKind) :
    Text.Legible marks message (contentMismatch content kind) := by
  refine legible_of_details fun y r r' _ _ htopic h ↦ ?_
  cases y with
  | missingOperator kind' => exact absurd h (by simp [details.eq_def])
  | structureMismatch kind' => exact absurd h (by simp [details.eq_def])
  | contentMismatch content' kind' =>
    have hmark : ∀ rest, Text.AtMark Text.wordMarks (" are accepted".toList ++ rest) :=
      fun rest ↦ by simp [Text.AtMark, Text.wordMarks]
    obtain rfl := Topic.node.inj htopic
    rw [details.eq_def, details.eq_def] at h
    simp only [String.toList_append, List.append_assoc, List.append_cancel_left_eq] at h
    obtain ⟨rfl, hrest⟩ := content.legible_name content' _ _ (hmark r) (hmark r') h
    exact ⟨rfl, List.append_cancel_left hrest⟩
  | _ => cases htopic

theorem legible_nameMismatch (name : String) :
    Text.Legible marks message (nameMismatch name) := by
  refine legible_of_details fun y r r' _ _ htopic h ↦ ?_
  cases y with
  | nameMismatch name' =>
    rw [details.eq_def, details.eq_def] at h
    simp only [String.toList_append, List.append_assoc] at h
    obtain ⟨rfl, hrest⟩ := Text.quoted_append_inj h
    exact ⟨rfl, List.append_cancel_left hrest⟩
  | _ => cases htopic

theorem legible_unsupportedStatement (kind : StatementKind) :
    Text.Legible marks message (unsupportedStatement kind) := by
  refine legible_of_details fun y r r' hr hr' htopic h ↦ ?_
  cases y with
  | unsupportedStatement kind' =>
    rw [details.eq_def, details.eq_def] at h
    simp only [String.toList_append, List.append_assoc, List.append_cancel_left_eq] at h
    obtain ⟨rfl, rfl⟩ := kind.legible_name kind' r r' (atMark_wordMarks hr) (atMark_wordMarks hr') h
    exact ⟨rfl, rfl⟩
  | _ => cases htopic

/-- The messages inside an aggregate are separated by semicolons, and a bracket ends them. -/
theorem legible_aggregate {errors : List QueryError}
    (herrors : ∀ err ∈ errors, Text.Legible marks message err) :
    Text.Legible marks message (aggregate errors) := by
  refine legible_of_details fun y r r' _ _ htopic h ↦ ?_
  cases y with
  | aggregate errors' =>
    rw [details.eq_def, details.eq_def] at h
    simp only [String.toList_append, List.append_assoc, List.append_cancel_left_eq] at h
    have hseparator : "; ".toList = ';' :: " ".toList := by simp
    have hbracket : "]".toList = [']'] := by simp
    rw [hbracket] at h
    obtain ⟨rfl, rfl⟩ := Text.joined_append_inj hseparator (by decide) (by decide) (by decide)
      (fun _ _ _ ↦ message_append_ne_bracket) herrors h
    exact ⟨rfl, rfl⟩
  | _ => cases htopic

mutual

/-- Every message is legible. -/
theorem legible : ∀ err : QueryError, Text.Legible marks message err
  | typeMismatch expected actual => legible_typeMismatch expected actual
  | operatorMismatch op => legible_operatorMismatch op
  | missingOperator kind => legible_missingOperator kind
  | structureMismatch kind => legible_structureMismatch kind
  | contentMismatch content kind => legible_contentMismatch content kind
  | depthExceeded => legible_of_topic fun y h ↦ by cases y <;> cases h; rfl
  | noMatch => legible_of_topic fun y h ↦ by cases y <;> cases h; rfl
  | noIdentifier => legible_of_topic fun y h ↦ by cases y <;> cases h; rfl
  | nameMismatch name => legible_nameMismatch name
  | missingNode => legible_missingNode
  | unsupportedStatement kind => legible_unsupportedStatement kind
  | aggregate errors => legible_aggregate (legible_all errors)

theorem legible_all : ∀ errors : List QueryError, ∀ err ∈ errors, Text.Legible marks message err
  | [] => List.forall_mem_nil _
  | err :: rest => List.forall_mem_cons.2 ⟨legible err, legible_all rest⟩

end

end Details

end QueryError

/-- No two errors have the same message, whatever their names, kinds, operators and nesting. -/
theorem message_eq_iff (x y : QueryError) : x.message = y.message ↔ x = y := by
  refine ⟨fun h ↦ ?_, congrArg QueryError.message⟩
  exact (x.legible y [] [] .nil .nil (by rw [h])).1

end ShapeQuery

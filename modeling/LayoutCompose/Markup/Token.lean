import LayoutCompose.Text.Blank

/-!
The tokens of a markup document: runs of text, and the pieces between `<` and `>`.

Reading goes on up to the end of the document or to the first piece that is not closed. The
tokens in front of it are kept, since what they mean may be at fault already.
-/

namespace LayoutCompose

/-- What was read up to the end, or up to a fault. -/
structure Run (ε α : Type) where
  items : List α
  stop : Option ε

namespace Run

def nil {ε α : Type} : Run ε α := ⟨[], none⟩

def fail {ε α : Type} (e : ε) : Run ε α := ⟨[], some e⟩

def cons {ε α : Type} (a : α) (run : Run ε α) : Run ε α :=
  ⟨a :: run.items, run.stop⟩

end Run

namespace Markup

def isSpace (c : Char) : Bool :=
  c == ' ' || c == '\t' || c == '\r' || c == '\n'

inductive Fault
  | unknownMarkup
  | unclosedInstruction
  | unclosedComment
  | unclosedDoctype
  | unclosedCdata
  | unclosedTag
  | namelessDoctype
  | unopened (name : String)
  | mismatched (expected found : String)
  deriving DecidableEq, Repr

def Fault.message : Fault → String
  | unknownMarkup => "syntax error: unknown or missed symbol in markup"
  | unclosedInstruction =>
    "syntax error: processing instruction or xml declaration not closed: " ++
      "`?>` not found before end of input"
  | unclosedComment => "syntax error: comment not closed: `-->` not found before end of input"
  | unclosedDoctype => "syntax error: DOCTYPE not closed: `>` not found before end of input"
  | unclosedCdata => "syntax error: CDATA not closed: `]]>` not found before end of input"
  | unclosedTag => "syntax error: tag not closed: `>` not found before end of input"
  | namelessDoctype =>
    "ill-formed document: `<!DOCTYPE>` declaration does not contain a name of a document type"
  | unopened name =>
    "ill-formed document: close tag `</" ++ name ++ ">` does not match any open tag"
  | mismatched expected found =>
    "ill-formed document: expected `</" ++ expected ++ ">`, but `</" ++ found ++ ">` was found"

/-- A piece of a document. Tags are kept without their angle brackets, and a closing tag
without its slash. -/
inductive Token
  | text (content : List Char)
  | opening (content : List Char)
  | closing (content : List Char)
  | comment (content : List Char)
  | cdata (content : List Char)
  | doctype (content : List Char)
  | instruction (content : List Char)
  deriving DecidableEq, Repr

def Token.source : Token → List Char
  | text content => content
  | opening content => '<' :: content ++ ['>']
  | closing content => '<' :: '/' :: content ++ ['>']
  | comment content => "<!--".toList ++ content ++ "-->".toList
  | cdata content => "<![CDATA[".toList ++ content ++ "]]>".toList
  | doctype content => '<' :: '!' :: content ++ ['>']
  | instruction content => '<' :: '?' :: content ++ ['?', '>']

/-- The content of a tag up to the first `>` outside quotes, and the rest after it. -/
def cutTag : (quote : Option Char) → List Char → Option (List Char × List Char)
  | _, [] => none
  | none, c :: cs =>
    if c = '>' then some ([], cs)
    else
      (cutTag (if c = '"' ∨ c = '\'' then some c else none) cs).map fun (content, rest) =>
        (c :: content, rest)
  | some quote, c :: cs =>
    (cutTag (if c = quote then none else some quote) cs).map fun (content, rest) =>
      (c :: content, rest)

/-- The content up to the `>` that balances the angle brackets between, and the rest after
it. -/
def cutBalanced : (depth : Nat) → List Char → Option (List Char × List Char)
  | _, [] => none
  | depth, c :: cs =>
    match c, depth with
    | '>', 0 => some ([], cs)
    | '>', depth + 1 => (cutBalanced depth cs).map fun (content, rest) => (c :: content, rest)
    | '<', depth =>
      (cutBalanced (depth + 1) cs).map fun (content, rest) => (c :: content, rest)
    | c, depth => (cutBalanced depth cs).map fun (content, rest) => (c :: content, rest)

/-- Whether the content of a document type begins with the right word, in any case. -/
def beginsDoctype (content : List Char) : Bool :=
  (content.take 7).map Char.toUpper == "DOCTYPE".toList

/-- What a cut makes of the piece at hand, or the fault that there is no end. -/
def token (make : List Char → Token) (fault : Fault) (cut : Option (List Char × List Char)) :
    Except Fault (Token × List Char) :=
  match cut with
  | some (content, rest) => .ok (make content, rest)
  | none => .error fault

/-- The piece that begins with `<`, given what follows that. -/
def nextMarkup : List Char → Except Fault (Token × List Char)
  | '!' :: '-' :: '-' :: cs => token .comment .unclosedComment (Text.cut? "-->".toList cs)
  | '!' :: '-' :: _ => .error .unclosedComment
  | '!' :: '[' :: cs =>
    match Text.stripHead? "CDATA[".toList cs with
    | some cs => token .cdata .unclosedCdata (Text.cut? "]]>".toList cs)
    | none => .error .unclosedCdata
  | '!' :: cs =>
    if cs.head? = some 'D' ∨ cs.head? = some 'd' then
      match cutBalanced 0 cs with
      | some (content, rest) =>
        if beginsDoctype content then .ok (.doctype content, rest) else .error .unclosedDoctype
      | none => .error .unclosedDoctype
    else .error .unknownMarkup
  | '?' :: '>' :: _ => .error .unclosedInstruction
  | '?' :: cs => token .instruction .unclosedInstruction (Text.cut? "?>".toList cs)
  | '/' :: cs => token .closing .unclosedTag (cutTag none cs)
  | cs => token .opening .unclosedTag (cutTag none cs)

def next (c : Char) (cs : List Char) : Except Fault (Token × List Char) :=
  if c = '<' then nextMarkup cs
  else .ok (.text (c :: cs.takeWhile (· != '<')), cs.dropWhile (· != '<'))

theorem cutTag_length {quote : Option Char} {cs content rest : List Char}
    (h : cutTag quote cs = some (content, rest)) : rest.length ≤ cs.length := by
  induction cs generalizing quote content with
  | nil => simp [cutTag] at h
  | cons c cs ih =>
      cases quote with
      | none =>
          simp only [cutTag] at h
          split at h
          · simp_all
          · simp only [Option.map_eq_some_iff, Prod.mk.injEq] at h
            obtain ⟨⟨b, a⟩, hcut, -, rfl⟩ := h
            exact Nat.le_succ_of_le (ih hcut)
      | some quote =>
          simp only [cutTag, Option.map_eq_some_iff, Prod.mk.injEq] at h
          obtain ⟨⟨b, a⟩, hcut, -, rfl⟩ := h
          exact Nat.le_succ_of_le (ih hcut)

theorem cutBalanced_length {depth : Nat} {cs content rest : List Char}
    (h : cutBalanced depth cs = some (content, rest)) : rest.length ≤ cs.length := by
  induction cs generalizing depth content with
  | nil => simp [cutBalanced] at h
  | cons c cs ih =>
      simp only [cutBalanced] at h
      split at h
      · simp_all
      all_goals
        simp only [Option.map_eq_some_iff, Prod.mk.injEq] at h
        obtain ⟨⟨b, a⟩, hcut, -, rfl⟩ := h
        exact Nat.le_succ_of_le (ih hcut)

theorem token_length {make : List Char → Token} {fault : Fault} {t : Token}
    {cut : Option (List Char × List Char)} {rest : List Char} {n : Nat}
    (h : token make fault cut = .ok (t, rest))
    (hcut : ∀ content rest, cut = some (content, rest) → rest.length ≤ n) : rest.length ≤ n := by
  cases cut with
  | none => simp [token] at h
  | some p =>
      obtain ⟨content, r⟩ := p
      simp only [token, Except.ok.injEq, Prod.mk.injEq] at h
      exact h.2 ▸ hcut content r rfl

theorem nextMarkup_length {cs rest : List Char} {t : Token}
    (h : nextMarkup cs = .ok (t, rest)) : rest.length ≤ cs.length := by
  unfold nextMarkup at h
  split at h
  · rename_i cs
    have := token_length (n := cs.length) h fun _ _ => Text.length_of_cut?
    simp only [List.length_cons]; omega
  · simp at h
  · split at h
    · rename_i cs _ cs' hstrip
      have hs := Text.length_of_stripHead? hstrip
      have := token_length (n := cs'.length) h fun _ _ => Text.length_of_cut?
      simp only [List.length_cons]; omega
    · simp at h
  · split at h
    · split at h
      · rename_i cs _ _ _ _ _ hcut
        split at h
        · simp only [Except.ok.injEq, Prod.mk.injEq] at h
          exact h.2 ▸ Nat.le_succ_of_le (cutBalanced_length hcut)
        · simp at h
      · simp at h
    · simp at h
  · simp at h
  · rename_i cs _
    have := token_length (n := cs.length) h fun _ _ => Text.length_of_cut?
    simp only [List.length_cons]; omega
  · rename_i cs
    have := token_length (n := cs.length) h fun _ _ => cutTag_length
    simp only [List.length_cons]; omega
  · exact token_length h fun _ _ => cutTag_length

theorem next_length {c : Char} {cs rest : List Char} {t : Token}
    (h : next c cs = .ok (t, rest)) : rest.length ≤ cs.length := by
  unfold next at h
  split at h
  · exact nextMarkup_length h
  · simp only [Except.ok.injEq, Prod.mk.injEq] at h
    rw [← h.2]
    exact (List.dropWhile_sublist _).length_le

def tokens : List Char → Run Fault Token
  | [] => .nil
  | c :: cs =>
    match _h : next c cs with
    | .ok (t, rest) => .cons t (tokens rest)
    | .error e => .fail e
  termination_by cs => cs.length
  decreasing_by
    have := next_length _h
    simp only [List.length_cons]
    omega

end Markup

end LayoutCompose

import LayoutCompose.Document.Reading
import LayoutCompose.Proofs.Outcome
import LayoutCompose.Proofs.Places
import LayoutCompose.Proofs.TokenSource

/-!
Where elements are at fault.

An event is located by the end of the event before it, and white space may stand between that and
the bracket which opens an element. A place is found by passing over the white space, so that the
fault of an element is reported at its bracket, in lines and characters.
-/

namespace LayoutCompose

/-! ### Places in a text -/

namespace Text

@[simp] theorem byteLength_cons (c : Char) (cs : List Char) :
    byteLength (c :: cs) = c.utf8Size + byteLength cs := rfl

@[simp] theorem byteLength_append (cs ds : List Char) :
    byteLength (cs ++ ds) = byteLength cs + byteLength ds := by
  induction cs with
  | nil => exact (Nat.zero_add _).symm
  | cons c cs ih => rw [List.cons_append, byteLength_cons, byteLength_cons, ih, Nat.add_assoc]

/-- Behind one mark there is not another. -/
theorem dropHead_dropHead {mark : Char} {cs : List Char} (h : ¬ [mark, mark] <+: cs) :
    dropHead [mark] (dropHead [mark] cs) = dropHead [mark] cs := by
  cases cs with
  | nil => rfl
  | cons c cs =>
      rw [dropHead_cons]
      split
      · rename_i hc
        subst hc
        cases cs with
        | nil => rfl
        | cons d cs =>
            rw [dropHead_cons, if_neg]
            rintro rfl
            exact h ⟨cs, rfl⟩
      · rename_i hc
        rw [dropHead_cons, if_neg hc]

end Text

namespace Position

def behind (p : Position) (cs : List Char) : Position :=
  cs.foldl after p

theorem seek_append (p : Position) (offset : Nat) (front rest : List Char) :
    seek p (Text.byteLength front + offset) (front ++ rest) =
      seek (p.behind front) offset rest := by
  induction front generalizing p with
  | nil => exact congrArg (seek p · rest) (Nat.zero_add offset)
  | cons c front ih =>
      have hpassed : c.utf8Size ≤ Text.byteLength (c :: front) + offset := by
        rw [Text.byteLength_cons]
        omega
      have hrest : Text.byteLength (c :: front) + offset - c.utf8Size =
          Text.byteLength front + offset := by
        rw [Text.byteLength_cons]
        omega
      rw [List.cons_append, seek, if_pos (.inl hpassed), hrest, ih]
      rfl

theorem seek_blank {gap : List Char} (hgap : ∀ c ∈ gap, Text.isBlank c = true) {c : Char}
    (hc : Text.isBlank c = false) (p : Position) (rest : List Char) :
    seek p 0 (gap ++ c :: rest) = p.behind gap := by
  induction gap generalizing p with
  | nil =>
      have hsize : ¬ c.utf8Size ≤ 0 := Nat.not_le.mpr c.utf8Size_pos
      rw [List.nil_append, seek, if_neg (by simp [hsize, hc])]
      rfl
  | cons d gap ih =>
      obtain ⟨hd, hgap⟩ := List.forall_mem_cons.mp hgap
      rw [List.cons_append, seek, if_pos (.inr hd), Nat.zero_sub, ih hgap]
      rfl

/-- A character that does not end its line stands in the line and at the column that are counted
in front of it. -/
theorem exists_line {c : Char} (hc : c ≠ '\n') (before rest : List Char) (p : Position) :
    ∃ lines columns row,
      p.behind before = ⟨p.line + lines, (if lines = 0 then p.column else 1) + columns⟩ ∧
      (Text.pieces '\n' (before ++ c :: rest))[lines]? = some row ∧
      row[columns]? = some c := by
  induction before generalizing p with
  | nil =>
      obtain ⟨piece, others, -, hpieces⟩ := Text.pieces_cons_of_ne hc rest
      refine ⟨0, 0, c :: piece, rfl, ?_, rfl⟩
      rw [List.nil_append, hpieces]
      rfl
  | cons d before ih =>
      obtain ⟨lines, columns, row, hbehind, hline, hcolumn⟩ := ih (p.after d)
      by_cases hd : d = '\n'
      · subst hd
        refine ⟨lines + 1, columns, row, ?_, ?_, hcolumn⟩
        · change (p.after '\n').behind before = _
          rw [hbehind, after, if_pos rfl, if_neg (Nat.succ_ne_zero lines), ite_self, Nat.add_assoc,
            Nat.add_comm 1]
        · rw [List.cons_append, Text.pieces, if_pos rfl]
          exact hline
      · obtain ⟨piece, others, hrest, hpieces⟩ := Text.pieces_cons_of_ne hd (before ++ c :: rest)
        rw [hrest] at hline
        rw [List.cons_append, hpieces]
        change ∃ lines columns row, (p.after d).behind before = _ ∧ _
        rw [hbehind, after, if_neg hd]
        cases lines with
        | zero =>
            obtain rfl := Option.some.inj hline
            refine ⟨0, columns + 1, d :: piece, ?_, rfl, hcolumn⟩
            rw [if_pos rfl, if_pos rfl, Nat.add_assoc, Nat.add_comm 1]
        | succ lines => exact ⟨lines + 1, columns, row, rfl, hline, hcolumn⟩

/-- The place of a character that is looked for from the end of what was read. -/
theorem ofOffset_append {gap : List Char} (hgap : ∀ c ∈ gap, Text.isBlank c = true) {c : Char}
    (hc : Text.isBlank c = false) (front rest : List Char) :
    ofOffset (front ++ gap ++ c :: rest) (Text.byteLength front) =
      behind ⟨1, 1⟩ (front ++ gap) := by
  have hseek := seek_append ⟨1, 1⟩ 0 front (gap ++ c :: rest)
  rw [Nat.add_zero] at hseek
  rw [ofOffset, List.append_assoc, hseek, seek_blank hgap hc, behind, behind, behind,
    List.foldl_append]

end Position

/-! ### Tokens and events -/

namespace Markup

theorem isBlank_of_isSpace {c : Char} (h : isSpace c = true) : Text.isBlank c = true := by
  simp only [isSpace, Bool.or_eq_true, beq_iff_eq] at h
  rcases h with ((rfl | rfl) | rfl) | rfl <;> rfl

theorem exists_next {cs : List Char} {t : Token} {ts : List Token}
    (h : (tokens cs).items = t :: ts) :
    ∃ c ds rest, cs = c :: ds ∧ next c ds = .ok (t, rest) ∧ (tokens rest).items = ts := by
  cases cs with
  | nil =>
      rw [tokens] at h
      cases h
  | cons c ds =>
      cases hnext : next c ds with
      | error fault =>
          rw [tokens_cons_of_error hnext] at h
          cases h
      | ok p =>
          obtain ⟨t', rest⟩ := p
          rw [tokens_cons_of_next hnext] at h
          obtain ⟨rfl, hrest⟩ := List.cons.inj h
          exact ⟨c, ds, rest, rfl, hnext, hrest⟩

/-- A token that is read in front of a text is read in front of any beginning of it. -/
theorem Token.ReadsBefore.of_append {t : Token} {before rest : List Char}
    (h : t.ReadsBefore (before ++ rest)) : t.ReadsBefore before := by
  rcases h with hmarked | ⟨content, rfl, hne, hmem, hhead⟩
  · exact .inl hmarked
  · refine .inr ⟨content, rfl, hne, hmem, fun c hc => hhead c ?_⟩
    obtain ⟨tail, rfl⟩ := List.head?_eq_some_iff.mp hc
    rfl

/-- What stands in front of a token is spelled by the tokens before it. -/
theorem exists_spells {cs : List Char} {ts us : List Token} {t : Token}
    (h : (tokens cs).items = ts ++ t :: us) :
    ∃ before c ds rest, cs = before ++ c :: ds ∧ Spells ts before ∧ next c ds = .ok (t, rest) := by
  induction ts generalizing cs with
  | nil =>
      obtain ⟨c, ds, rest, rfl, hnext, -⟩ := exists_next h
      exact ⟨[], c, ds, rest, rfl, .nil, hnext⟩
  | cons first ts ih =>
      obtain ⟨c, ds, later, rfl, hfirst, hlater⟩ := exists_next h
      obtain ⟨before, d, es, rest, rfl, hspells, hnext⟩ := ih hlater
      obtain ⟨hsource, hreads⟩ := readsBefore_of_next hfirst
      refine ⟨first.source ++ before, d, es, rest, ?_, .cons hreads.of_append hspells, hnext⟩
      rw [hsource, List.append_assoc]

def Event.ofOpening (content : List Char) : Event :=
  if content.getLast? = some '/' then .empty (Tag.ofContent content.dropLast)
  else .start (Tag.ofContent content)

def Event.isOpening : Event → Bool
  | start _ | empty _ => true
  | _ => false

/-- A token that is passed over between events, with the elements `names` open. -/
def Token.IsPassed (t : Token) (names : List (List Char)) : Prop :=
  ∀ stop start here ts, eventsFrom stop start here names (t :: ts) =
    eventsFrom stop start (here + Text.byteLength t.source) names ts

/-- A token that makes an event, after which the elements `opened` are open. -/
def Token.Tells (t : Token) (names : List (List Char)) (event : Event)
    (opened : List (List Char)) : Prop :=
  ∀ stop start here ts, eventsFrom stop start here names (t :: ts) =
    .cons ⟨start, event⟩ (eventsFrom stop (here + Text.byteLength t.source)
      (here + Text.byteLength t.source) opened ts)

/-- What a token does: it is white space and passed over, it makes an event, or it ends the
events. -/
inductive Token.Acts (t : Token) (names : List (List Char)) : Prop
  | blank : (∀ c ∈ t.source, isSpace c = true) → t.IsPassed names → Acts t names
  | tells (event : Event) (opened : List (List Char)) :
      (event.isOpening = true → ∃ content, t = .opening content ∧ event = .ofOpening content) →
      t.Tells names event opened → Acts t names
  | ends : (∀ stop start here ts, (eventsFrom stop start here names (t :: ts)).items = []) →
      Acts t names

theorem Token.acts (t : Token) (names : List (List Char)) : t.Acts names := by
  cases t with
  | text content =>
      by_cases hcontent : content.all isSpace = true
      · refine .blank (List.all_eq_true.mp hcontent) fun stop start here ts => ?_
        rw [eventsFrom, if_pos hcontent]
      · refine .tells (.text content) names nofun fun stop start here ts => ?_
        rw [eventsFrom, if_neg hcontent]
  | opening content =>
      by_cases hempty : content.getLast? = some '/'
      · refine .tells (.empty (Tag.ofContent content.dropLast)) names (fun _ => ⟨content, rfl, ?_⟩)
          fun stop start here ts => ?_
        · rw [Event.ofOpening, if_pos hempty]
        · rw [eventsFrom, if_pos hempty]
      · refine .tells (.start (Tag.ofContent content)) ((Tag.ofContent content).name :: names)
          (fun _ => ⟨content, rfl, ?_⟩) fun stop start here ts => ?_
        · rw [Event.ofOpening, if_neg hempty]
        · rw [eventsFrom, if_neg hempty]
  | closing content =>
      cases names with
      | nil => exact .ends fun stop start here ts => rfl
      | cons name names =>
          by_cases hname : name = closingName content
          · refine .tells .close names nofun fun stop start here ts => ?_
            rw [eventsFrom]
            exact if_pos hname
          · refine .ends fun stop start here ts => ?_
            rw [eventsFrom]
            exact congrArg Run.items (if_neg hname)
  | comment content => exact .tells .aside names nofun fun stop start here ts => rfl
  | cdata content => exact .tells .cdata names nofun fun stop start here ts => rfl
  | doctype content =>
      by_cases hname : (content.drop 7).all isSpace = true
      · refine .ends fun stop start here ts => ?_
        rw [eventsFrom, if_pos hname]
        rfl
      · refine .tells .aside names nofun fun stop start here ts => ?_
        rw [eventsFrom, if_neg hname]
  | instruction content => exact .tells .aside names nofun fun stop start here ts => rfl

end Markup

/-! ### Causes of elements -/

namespace Document

open Markup (Event Located Token)

/-- Whether a cause lies with an element, and not with the outer form of the document or with the
text in it. -/
def Cause.isOfElement : Cause → Bool
  | multipleRoots | unknownTag _ | misplacedMerge | unknownAttribute .. | duplicateAttribute ..
  | missingAttribute .. | invalidValue .. | unexpectedChild .. => true
  | malformed _ | empty | unexpectedText _ | unreadable => false

namespace Session

variable {strict : Bool} {s : Session} {cause : Cause}

/-- Only the beginning of an element has a cause that lies with it. -/
theorem isOpening_of_step {event : Event} (h : (s.step strict event).result = .error cause)
    (hcause : cause.isOfElement = true) : event.isOpening = true := by
  cases event with
  | start tag => rfl
  | empty tag => rfl
  | close =>
      change s.leave = .error cause at h
      unfold leave at h
      split at h
      · cases h
        cases hcause
      · cases h
      · cases h
  | text content =>
      rw [step] at h
      split at h
      · cases h
      · cases h
        cases hcause
  | cdata =>
      cases h
      cases hcause
  | aside => cases h

theorem run_cons_eq_error {e : Located Event} {es : List (Located Event)} {fault : Located Cause} :
    (run strict s (e :: es)).result = .error fault ↔
      (∃ cause, (s.step strict e.value).result = .error cause ∧ ⟨e.offset, cause⟩ = fault) ∨
        ∃ t, (s.step strict e.value).result = .ok t ∧ (run strict t es).result = .error fault := by
  rw [run, Noted.result_bind, Outcome.Except_bind_eq_error, Noted.result_mapError,
    Outcome.mapError_eq_error]
  simp only [Outcome.mapError_eq_ok]

/-- Reading stops at an opening tag. It has been read up to the end of `front`, white space `gap`
has been passed since, and the tokens `before` stand in front of the tag. They are taken to the
end, and the tag is at fault at an offset that only white space divides from it. -/
structure StopsAt (strict : Bool) (s : Session) (names : List (List Char))
    (front gap : List Char) (before : List Token) (content : List Char)
    (fault : Located Cause) : Prop where
  place : ∃ read space, front ++ gap ++ before.flatMap Token.source = read ++ space ∧
    (∀ c ∈ space, Markup.isSpace c = true) ∧ fault.offset = Text.byteLength read
  whole : (Markup.eventsFrom none (Text.byteLength front) (Text.byteLength (front ++ gap)) names
    before).stop = none
  refused : ∃ t, (run strict s (Markup.eventsFrom none (Text.byteLength front)
      (Text.byteLength (front ++ gap)) names before).items).result = .ok t ∧
    (t.step strict (.ofOpening content)).result = .error fault.value

namespace StopsAt

variable {names opened : List (List Char)} {front gap content : List Char} {before : List Token}
  {fault : Located Cause} {t : Token}

theorem here (hgap : ∀ c ∈ gap, Markup.isSpace c = true)
    (h : (s.step strict (.ofOpening content)).result = .error cause) :
    StopsAt strict s names front gap [] content ⟨Text.byteLength front, cause⟩ :=
  ⟨⟨front, gap, List.append_nil _, hgap, rfl⟩, rfl, s, rfl, h⟩

/-- A token that is passed over adds to the white space. -/
theorem blank (hpassed : t.IsPassed names)
    (h : StopsAt strict s names front (gap ++ t.source) before content fault) :
    StopsAt strict s names front gap (t :: before) content fault := by
  obtain ⟨hplace, hwhole, hrefused⟩ := h
  rw [← List.append_assoc, Text.byteLength_append (front ++ gap), ← hpassed] at hwhole hrefused
  refine ⟨?_, hwhole, hrefused⟩
  rw [List.flatMap_cons, ← List.append_assoc]
  rwa [← List.append_assoc] at hplace

/-- Behind a token that makes an event reading begins anew. -/
theorem told {event : Event} {u : Session} (htells : t.Tells names event opened)
    (hstep : (s.step strict event).result = .ok u)
    (h : StopsAt strict u opened (front ++ gap ++ t.source) [] before content fault) :
    StopsAt strict s names front gap (t :: before) content fault := by
  obtain ⟨hplace, hwhole, v, hrun, hrefused⟩ := h
  rw [List.append_nil, Text.byteLength_append (front ++ gap)] at hwhole hrun
  refine ⟨?_, ?_, v, ?_, hrefused⟩
  · rw [List.flatMap_cons, ← List.append_assoc]
    rwa [List.append_nil] at hplace
  · rw [htells]
    exact hwhole
  · rw [htells, Run.cons, run, Noted.result_bind, Noted.result_mapError, hstep]
    exact hrun

end StopsAt

/-- A fault of an element is found at an opening tag. -/
theorem exists_stopsAt {stop : Option Markup.Fault} {names : List (List Char)}
    {front gap : List Char} {ts : List Token} {fault : Located Cause}
    (hgap : ∀ c ∈ gap, Markup.isSpace c = true)
    (h : (run strict s (Markup.eventsFrom stop (Text.byteLength front)
      (Text.byteLength (front ++ gap)) names ts).items).result = .error fault)
    (hfault : fault.value.isOfElement = true) : ∃ before content after,
      ts = before ++ .opening content :: after ∧
        StopsAt strict s names front gap before content fault := by
  induction ts generalizing s names front gap with
  | nil => cases h
  | cons t ts ih =>
      cases t.acts names with
      | blank hspace hpassed =>
          rw [hpassed, ← Text.byteLength_append, List.append_assoc] at h
          obtain ⟨before, content, after, rfl, hstops⟩ :=
            ih (List.forall_mem_append.mpr ⟨hgap, hspace⟩) h
          exact ⟨t :: before, content, after, rfl, hstops.blank hpassed⟩
      | tells event opened hopening htells =>
          -- The event that is refused is that of the tag; one that is taken leaves the fault to
          -- the tokens behind it, and nothing has been passed over since.
          rw [htells, ← Text.byteLength_append, Run.cons, run_cons_eq_error] at h
          rcases h with ⟨cause, hstep, rfl⟩ | ⟨u, hstep, hrun⟩
          · obtain ⟨content, rfl, rfl⟩ := hopening (isOpening_of_step hstep hfault)
            exact ⟨[], content, ts, rfl, .here hgap hstep⟩
          · have hanew : (run strict u (Markup.eventsFrom stop
                (Text.byteLength (front ++ gap ++ t.source))
                (Text.byteLength (front ++ gap ++ t.source ++ [])) opened ts).items).result =
                  .error fault := by
              rwa [List.append_nil]
            obtain ⟨before, content, after, rfl, hstops⟩ := ih (List.forall_mem_nil _) hanew
            exact ⟨t :: before, content, after, rfl, hstops.told htells hstep⟩
      | ends hends =>
          rw [hends] at h
          cases h

end Session

/-- The element that begins behind `before` is at fault for a cause: what stands in front of it is
read to the end, and then its tag is refused. -/
structure Offends (strict : Bool) (before content : List Char) (cause : Cause) : Prop where
  whole : (Markup.events before).stop = none
  refused : ∃ s, (Session.run strict {} (Markup.events before).items).result = .ok s ∧
    (s.step strict (.ofOpening content)).result = .error cause

/-- A cause of an element is found where the tokens of the document are taken. -/
theorem run_of_ofEvents {strict : Bool} {length : Nat}
    {events : Run (Located Markup.Fault) (Located Event)} {fault : Located Cause}
    (h : (ofEvents strict length events).result = .error fault)
    (hfault : fault.value.isOfElement = true) :
    (Session.run strict {} events.items).result = .error fault := by
  rw [ofEvents, Noted.result_bind, Outcome.Except_bind_eq_error] at h
  rcases h with hrun | ⟨s, -, hrest⟩
  · exact hrun
  · split at hrest
    · cases hrest
      cases hfault
    · change s.finish length = .error fault at hrest
      unfold Session.finish at hrest
      split at hrest
      · cases hrest
        cases hfault
      · split at hrest
        · cases hrest
        · cases hrest
          cases hfault

/-- A fault of an element is placed at its bracket. -/
theorem exists_offends {strict : Bool} {source : List Char} {length : Nat} {fault : Located Cause}
    (h : (ofEvents strict length (Markup.events source)).result = .error fault)
    (hfault : fault.value.isOfElement = true) : ∃ before content rest,
      source = before ++ '<' :: (content ++ '>' :: rest) ∧
      Markup.next '<' (content ++ '>' :: rest) = .ok (.opening content, rest) ∧
      Offends strict before content fault.value ∧
      Position.ofOffset source fault.offset = Position.behind ⟨1, 1⟩ before := by
  have hrun : (Session.run strict {} (Markup.eventsFrom (Markup.tokens source).stop
      (Text.byteLength []) (Text.byteLength ([] ++ [])) []
      (Markup.tokens source).items).items).result = .error fault := run_of_ofEvents h hfault
  obtain ⟨ts, content, us, htokens, ⟨read, space, hplace, hspace, hoffset⟩, hwhole, hrefused⟩ :=
    Session.exists_stopsAt (List.forall_mem_nil _) hrun hfault
  obtain ⟨before, c, ds, rest, rfl, hspells, hnext⟩ := Markup.exists_spells htokens
  obtain ⟨hsource, -⟩ := Markup.readsBefore_of_next hnext
  rw [Markup.source_opening_append] at hsource
  obtain ⟨rfl, rfl⟩ := List.cons.inj hsource
  have hevents : Markup.events before = Markup.eventsFrom none 0 0 [] ts := by
    rw [Markup.events, Markup.tokens_of_spells hspells]
  refine ⟨before, content, rest, rfl, hnext, ⟨?_, ?_⟩, ?_⟩
  · rw [hevents]
    exact hwhole
  · rw [hevents]
    exact hrefused
  · have hbefore : before = read ++ space := hspells.eq_flatMap.trans hplace
    rw [hoffset, hbefore]
    exact Position.ofOffset_append (fun c hc => Markup.isBlank_of_isSpace (hspace c hc))
      (by decide) _ _

end Document

/-- The place of a fault that lies with an element is the bracket which opens the element: it is
in a line of the document, behind its mark, and the bracket stands there at the column. -/
theorem Layout.read_locates_element {strict : Bool} {source : String} {e : Document.Error}
    (hmarks : ¬ [Document.byteOrderMark, Document.byteOrderMark] <+: source.toList)
    (h : (read strict source).result = .error e) (hcause : e.cause.isOfElement = true) :
    let text := Text.dropHead [Document.byteOrderMark] source.toList
    let lines := Text.pieces '\n' text
    ∃ before content rest p row,
      text = before ++ '<' :: (content ++ '>' :: rest) ∧
      Markup.next '<' (content ++ '>' :: rest) = .ok (.opening content, rest) ∧
      Document.Offends strict before content e.cause ∧
      e.position = some p ∧ p = Position.behind ⟨1, 1⟩ before ∧
      1 ≤ p.line ∧ p.line ≤ lines.length ∧ lines[p.line - 1]? = some row ∧
      1 ≤ p.column ∧ p.column ≤ row.length ∧ row[p.column - 1]? = some '<' := by
  intro text lines
  rw [read, Noted.result_mapError, Outcome.mapError_eq_error] at h
  obtain ⟨fault, hread, rfl⟩ := h
  rw [Document.readUnmarked, Text.dropHead_dropHead hmarks] at hread
  obtain ⟨before, content, rest, htext, hnext, hoffends, hplace⟩ :=
    Document.exists_offends hread hcause
  obtain ⟨above, left, row, hbehind, hline, hbracket⟩ :=
    Position.exists_line (c := '<') (by decide) before (content ++ '>' :: rest) ⟨1, 1⟩
  rw [ite_self, Nat.add_comm 1, Nat.add_comm 1] at hbehind
  rw [← htext] at hline
  obtain ⟨hlines, -⟩ := List.getElem?_eq_some_iff.mp hline
  obtain ⟨hcolumns, -⟩ := List.getElem?_eq_some_iff.mp hbracket
  exact ⟨before, content, rest, ⟨above + 1, left + 1⟩, row, htext, hnext, hoffends,
    congrArg some (hplace.trans hbehind), hbehind.symm, Nat.succ_pos above, hlines, hline,
    Nat.succ_pos left, hcolumns, hbracket⟩

/-- Behind a mark, a line that ends with a carriage return, and a comment with a character of two
bytes. -/
theorem Layout.read_locates_element_behind_comment :
    let source := "\ufeff<Row>\r\n <!-- ü --> <Foo/></Row>"
    ¬ [Document.byteOrderMark, Document.byteOrderMark] <+: source.toList ∧
      (read false source).result = .error ⟨.unknownTag "Foo", some ⟨2, 13⟩⟩ ∧
      ∃ before content rest, Text.dropHead [Document.byteOrderMark] source.toList =
          before ++ '<' :: (content ++ '>' :: rest) ∧
        Document.Offends false before content (.unknownTag "Foo") ∧
        Position.behind ⟨1, 1⟩ before = ⟨2, 13⟩ := by
  intro source
  have hmarks : ¬ [Document.byteOrderMark, Document.byteOrderMark] <+: source.toList := by
    decide +kernel
  have hread : (read false source).result = .error ⟨.unknownTag "Foo", some ⟨2, 13⟩⟩ :=
    Outcome.failure?_eq_some_iff.mp (by decide +kernel)
  obtain ⟨before, content, rest, p, -, htext, -, hoffends, hp, hplace, -⟩ :=
    read_locates_element hmarks hread rfl
  obtain rfl := Option.some.inj hp
  exact ⟨hmarks, hread, before, content, rest, htext, hoffends, hplace.symm⟩

end LayoutCompose

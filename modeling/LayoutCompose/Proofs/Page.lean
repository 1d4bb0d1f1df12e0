import LayoutCompose.Kotlin.Page
import LayoutCompose.Proofs.Scanner

/-!
Code on a page.

Writing code adds its lines to the page, each behind the space for its depth, and leaves the
page at the depth where it was. The lines of a block stand one level deeper between its header
and its closing brace, so a scanner that has read the page before the block has the same brackets
open behind it.
-/

namespace LayoutCompose.Kotlin

/-! ### Lines -/

def lineText (line : Nat × String) : String :=
  indentation line.1 ++ line.2 ++ "\n"

mutual

/-- The lines of code at a depth, each with its own depth. -/
def Code.lines (depth : Nat) : Code → List (Nat × String)
  | .line text => [(depth, text)]
  | .block header body =>
      (depth, header ++ " \x7b") :: Code.linesAll (depth + 1) body ++ [(depth, "\x7d")]

def Code.linesAll (depth : Nat) : List Code → List (Nat × String)
  | [] => []
  | code :: rest => code.lines depth ++ Code.linesAll depth rest

end

@[simp] theorem Code.linesAll_append {depth : Nat} {code rest : List Code} :
    Code.linesAll depth (code ++ rest) = Code.linesAll depth code ++ Code.linesAll depth rest := by
  induction code with
  | nil => rfl
  | cons c code ih => rw [List.cons_append, Code.linesAll, Code.linesAll, ih, List.append_assoc]

def Page.addLines (page : Page) (lines : List (Nat × String)) : Page :=
  { page with text := page.text ++ String.join (lines.map lineText) }

@[simp] theorem Page.addLines_append (page : Page) (lines more : List (Nat × String)) :
    page.addLines (lines ++ more) = (page.addLines lines).addLines more := by
  simp [Page.addLines, String.append_assoc]

theorem Page.line_eq_addLines (page : Page) (text : String) :
    page.line text = page.addLines [(page.depth, text)] := by
  simp [Page.line, Page.addLines, lineText, String.append_assoc]

mutual

theorem Code.write_eq (page : Page) : (code : Code) →
    code.write page = page.addLines (code.lines page.depth)
  | .line text => page.line_eq_addLines text
  | .block header body => by
      rw [Code.write, Code.writeAll_eq (page.enter header) body]
      simp [Page.enter, Page.leave, Page.line, Page.addLines, Code.lines, lineText,
        String.append_assoc]

/-- Writing code adds its lines and comes back to the depth at which it began. -/
theorem Code.writeAll_eq (page : Page) : (code : List Code) →
    Code.writeAll page code = page.addLines (Code.linesAll page.depth code)
  | [] => by simp [Code.writeAll, Code.linesAll, Page.addLines]
  | code :: rest => by
      rw [Code.writeAll, Code.write_eq page code, Code.writeAll_eq _ rest, Code.linesAll,
        Page.addLines_append]
      rfl

end

/-! ### Scanning -/

mutual

/-- Code of which each line, and each header, can stand as it is. -/
def Code.Sound : Code → Prop
  | .line text => IsLine text
  | .block header body => IsLine header ∧ Code.AllSound body

def Code.AllSound : List Code → Prop
  | [] => True
  | code :: rest => code.Sound ∧ Code.AllSound rest

end

theorem Code.allSound_append {code rest : List Code} :
    Code.AllSound (code ++ rest) ↔ Code.AllSound code ∧ Code.AllSound rest := by
  induction code with
  | nil => simp [Code.AllSound]
  | cons c code ih => simp [Code.AllSound, ih, and_assoc]

theorem Code.allSound_lines {texts : List String} (h : ∀ text ∈ texts, IsLine text) :
    Code.AllSound (texts.map .line) := by
  induction texts with
  | nil => trivial
  | cons text texts ih =>
      rw [List.forall_mem_cons] at h
      exact ⟨h.1, ih h.2⟩

/-- A scanner has read the page and stands in code, with the given brackets open. -/
def Page.Scanned (page : Page) (opened : List Char) : Prop :=
  Scanner.scan {} page.text.toList = some ⟨.code, opened⟩

theorem neutral_indentation (depth : Nat) : Neutral (indentation depth) := by
  refine Neutral.of_all (p := (· == ' ')) (by decide) fun c hc => ?_
  rw [indentation, String.toList_ofList, List.mem_replicate] at hc
  exact beq_iff_eq.mpr hc.2

/-- A line may end where no parenthesis is open. -/
theorem Page.scanned_line {page : Page} {opened after : List Char} {text : String}
    (h : page.Scanned opened) (htext : Piece opened after text) (hafter : '(' ∉ after) :
    (page.line text).Scanned after := by
  have hspace := (neutral_indentation page.depth).between opened
  have hend : Scanner.scan ⟨.code, after⟩ "\n".toList = some ⟨.code, after⟩ := by
    have hnewline : "\n".toList = ['\n'] := by decide
    rw [hnewline]
    simp [Scanner.step, hafter]
  rw [Scanned, line, String.toList_append, String.toList_append, String.toList_append,
    List.append_assoc, List.append_assoc, Scanner.scan_append h, Scanner.scan_append hspace.scan,
    Scanner.scan_append htext.scan, hend]

theorem Page.scanned_enter {page : Page} {opened : List Char} {header : String}
    (h : page.Scanned opened) (hheader : Neutral header) (hopened : '(' ∉ opened) :
    (page.enter header).Scanned ('\x7b' :: opened) := by
  have hbrace : Piece [] ['\x7b'] " \x7b" := .literal (by decide)
  have hline : (page.line (header ++ " \x7b")).Scanned ('\x7b' :: opened) :=
    scanned_line h ((hheader.between opened).append (hbrace.frame opened)) (by simp [hopened])
  exact hline

theorem Page.scanned_leave {page : Page} {opened : List Char}
    (h : page.Scanned ('\x7b' :: opened)) (hopened : '(' ∉ opened) : page.leave.Scanned opened := by
  have hbrace : Piece ['\x7b'] [] "\x7d" := .literal (by decide)
  exact scanned_line h (hbrace.frame opened) hopened

mutual

theorem Code.scanned_write {page : Page} {opened : List Char} (hpage : page.Scanned opened)
    (hopened : '(' ∉ opened) : (code : Code) → code.Sound → (code.write page).Scanned opened
  | .line text, h => Page.scanned_line hpage (h.neutral.between opened) hopened
  | .block header body, h => by
      have henter := Page.scanned_enter hpage h.1.neutral hopened
      exact Page.scanned_leave (Code.scanned_writeAll henter (by simp [hopened]) body h.2) hopened

/-- Writing code that is sound closes all the brackets that it opens. -/
theorem Code.scanned_writeAll {page : Page} {opened : List Char} (hpage : page.Scanned opened)
    (hopened : '(' ∉ opened) :
    (code : List Code) → Code.AllSound code → (Code.writeAll page code).Scanned opened
  | [], _ => hpage
  | code :: rest, h =>
      Code.scanned_writeAll (Code.scanned_write hpage hopened code h.1) hopened rest h.2

end

mutual

theorem Code.lines_of_sound (depth : Nat) : (code : Code) → code.Sound →
    ∀ line ∈ code.lines depth, '\n' ∉ line.2.toList ∧ Begins line.2
  | .line text, h => by
      rw [Code.lines, List.forall_mem_singleton]
      exact ⟨h.neutral.line, h.begins⟩
  | .block header body, h => by
      have hheader : '\n' ∉ (header ++ " \x7b").toList := by simp [h.1.neutral.line]
      have hbrace : '\n' ∉ "\x7d".toList ∧ Begins "\x7d" :=
        ⟨by decide, '\x7d', by decide, by decide⟩
      rw [Code.lines, List.forall_mem_append, List.forall_mem_cons, List.forall_mem_singleton]
      exact ⟨⟨⟨hheader, h.1.begins.append _⟩, Code.linesAll_of_sound (depth + 1) body h.2⟩, hbrace⟩

/-- Each line of code that is sound is a single line and begins with something other than a
space. -/
theorem Code.linesAll_of_sound (depth : Nat) : (code : List Code) → Code.AllSound code →
    ∀ line ∈ Code.linesAll depth code, '\n' ∉ line.2.toList ∧ Begins line.2
  | [], _ => nofun
  | code :: rest, h => by
      rw [Code.linesAll, List.forall_mem_append]
      exact ⟨Code.lines_of_sound depth code h.1, Code.linesAll_of_sound depth rest h.2⟩

end

end LayoutCompose.Kotlin

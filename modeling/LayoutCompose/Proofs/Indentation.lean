import LayoutCompose.Batch.Basic
import LayoutCompose.Proofs.WrittenCode

/-!
The depth at which code begins.

Code that begins deeper has the same lines, each behind more space. No line reaches over its end,
so the lines that a reader finds on the page are the lines that were written. A layout that has
been read is therefore written at any depth as at the margin, up to the space in front of each
line, and a complete file holds the plain code one level deeper.
-/

namespace LayoutCompose

namespace Kotlin

/-- Puts space in front of every line of a text; `begins` says whether a line begins here. -/
def indentFrom (space : List Char) : (begins : Bool) → List Char → List Char
  | _, [] => []
  | true, c :: cs => space ++ c :: indentFrom space (c == '\n') cs
  | false, c :: cs => c :: indentFrom space (c == '\n') cs

/-- The text with four spaces for each level in front of every line. -/
def indented (depth : Nat) (text : String) : String :=
  String.ofList (indentFrom (List.replicate (4 * depth) ' ') true text.toList)

theorem indentFrom_inside {space cs rest : List Char} (h : '\n' ∉ cs) :
    indentFrom space false (cs ++ '\n' :: rest) = cs ++ '\n' :: indentFrom space true rest := by
  induction cs with
  | nil => simp [indentFrom]
  | cons c cs ih =>
      rw [List.mem_cons, not_or] at h
      have hc : (c == '\n') = false := beq_eq_false_iff_ne.mpr (Ne.symm h.1)
      rw [List.cons_append, indentFrom, hc, ih h.2, List.cons_append]

theorem indentFrom_line {space cs rest : List Char} (h : '\n' ∉ cs) :
    indentFrom space true (cs ++ '\n' :: rest) =
      space ++ (cs ++ '\n' :: indentFrom space true rest) := by
  cases cs with
  | nil => simp [indentFrom]
  | cons c cs =>
      rw [List.mem_cons, not_or] at h
      have hc : (c == '\n') = false := beq_eq_false_iff_ne.mpr (Ne.symm h.1)
      rw [List.cons_append, indentFrom, hc, indentFrom_inside h.2, List.cons_append]

theorem indented_line (depth : Nat) {line rest : String} (h : '\n' ∉ line.toList) :
    indented depth (line ++ "\n" ++ rest) =
      String.ofList (List.replicate (4 * depth) ' ') ++ (line ++ "\n" ++ indented depth rest) := by
  have htext : (line ++ "\n" ++ rest).toList = line.toList ++ '\n' :: rest.toList := by
    rw [String.toList_append, String.toList_append, List.append_assoc]
    rfl
  have hnewline (cs : List Char) : String.ofList ('\n' :: cs) = "\n" ++ String.ofList cs := by
    change String.ofList (['\n'] ++ cs) = _
    rw [String.ofList_append]
  rw [indented, htext, indentFrom_line h, String.ofList_append, String.ofList_append,
    String.ofList_toList, hnewline, ← indented, String.append_assoc]

/-! ### Lines -/

def deeper (levels : Nat) (line : Nat × String) : Nat × String :=
  (levels + line.1, line.2)

mutual

theorem Code.lines_add (levels depth : Nat) : (code : Code) →
    code.lines (levels + depth) = (code.lines depth).map (deeper levels)
  | .line text => rfl
  | .block header body => by
      rw [Code.lines, Code.lines, Nat.add_assoc, Code.linesAll_add levels (depth + 1) body,
        List.map_append, List.map_cons]
      rfl

/-- Code that begins deeper has the same lines, all deeper by as much. -/
theorem Code.linesAll_add (levels depth : Nat) : (code : List Code) →
    Code.linesAll (levels + depth) code = (Code.linesAll depth code).map (deeper levels)
  | [] => rfl
  | code :: rest => by
      rw [Code.linesAll, Code.linesAll, Code.lines_add levels depth code,
        Code.linesAll_add levels depth rest, List.map_append]

end

theorem lineText_deeper (levels : Nat) (line : Nat × String) :
    lineText (deeper levels line) =
      String.ofList (List.replicate (4 * levels) ' ') ++ lineText line := by
  have hspace : indentation (levels + line.1) =
      String.ofList (List.replicate (4 * levels) ' ') ++ indentation line.1 := by
    rw [indentation, indentation, Nat.mul_add, List.replicate_add, String.ofList_append]
  simp only [lineText, deeper, hspace, String.append_assoc]

/-- To put space in front of every line of a page is to write the same lines deeper, as long as
each of them is a single line. -/
theorem indented_join_lineText (levels : Nat) {lines : List (Nat × String)}
    (h : ∀ line ∈ lines, '\n' ∉ line.2.toList) :
    indented levels (String.join (lines.map lineText)) =
      String.join ((lines.map (deeper levels)).map lineText) := by
  induction lines with
  | nil => rfl
  | cons line lines ih =>
      rw [List.forall_mem_cons] at h
      have hline : '\n' ∉ (indentation line.1 ++ line.2).toList := by
        rw [String.toList_append, List.mem_append, not_or]
        exact ⟨(neutral_indentation line.1).line, h.1⟩
      calc indented levels (String.join ((line :: lines).map lineText))
        _ = indented levels
              (indentation line.1 ++ line.2 ++ "\n" ++ String.join (lines.map lineText)) := by
            rw [List.map_cons, String.join_cons, lineText]
        _ = lineText (deeper levels line) ++
              indented levels (String.join (lines.map lineText)) := by
            rw [indented_line levels hline, lineText_deeper, lineText]
            exact String.append_assoc.symm
        _ = String.join (((line :: lines).map (deeper levels)).map lineText) := by
            rw [ih h.2, List.map_cons, List.map_cons, String.join_cons]

theorem Code.text_writeAll (depth : Nat) (code : List Code) :
    (Code.writeAll { depth } code).text =
      String.join ((Code.linesAll depth code).map lineText) := by
  rw [Code.writeAll_eq]
  exact String.empty_append

/-- Code whose lines can stand as they are is indented as a whole by beginning deeper. -/
theorem Code.text_writeAll_of_sound (depth : Nat) {code : List Code} (h : Code.AllSound code) :
    (Code.writeAll { depth } code).text =
      indented depth (Code.writeAll { depth := 0 } code).text := by
  have hlines : ∀ line ∈ Code.linesAll 0 code, '\n' ∉ line.2.toList := fun line hline =>
    (Code.linesAll_of_sound 0 code h line hline).1
  rw [Code.text_writeAll, Code.text_writeAll, indented_join_lineText depth hlines,
    ← Code.linesAll_add depth 0 code, Nat.add_zero]

end Kotlin

/-! ### Layouts -/

theorem Layout.compose_eq_indented {strict : Bool} {source : String} {layout : Layout}
    (h : (Layout.read strict source).result = .ok layout) (depth : Nat) :
    (layout.compose depth).result =
      (layout.compose 0).result.map (Kotlin.indented depth) := by
  rw [Layout.compose, Layout.compose, Noted.result_bind, Noted.result_bind]
  cases hcode : (Compose.viewsCode (fun _ => .top) 0 layout.roots).result with
  | error e => rfl
  | ok code =>
      have hsound := Layout.allSound_of_read h hcode
      exact congrArg Except.ok (Kotlin.Code.text_writeAll_of_sound depth hsound)

/-- The depth at which a layout is written decides nothing but the space in front of each line: it
is written or refused, for the same reason, as at the margin. So a document is converted to a
complete file exactly if it is converted to plain code, which stands in the file one level
deeper. -/
theorem Layout.compose_depth_only_indents :
    (∀ strict source layout, (Layout.read strict source).result = .ok layout → ∀ depth,
      (layout.compose depth).result =
        (layout.compose 0).result.map (Kotlin.indented depth)) ∧
    ∀ (options : Options) (source name : String),
      (convert { options with complete := true } source name).result =
        (convert { options with complete := false } source name).result.map fun body =>
          Kotlin.screen name (Kotlin.indented 1 body) := by
  refine ⟨fun strict source layout h => Layout.compose_eq_indented h, ?_⟩
  intro options source name
  rw [convert, convert, Noted.result_bind, Noted.result_bind, Noted.result_mapError]
  cases hread : (Layout.read options.strict source).result with
  | error e => rfl
  | ok layout =>
      have hbody := Layout.compose_eq_indented hread 1
      change ((layout.compose 1).mapError ConversionError.compose >>= _).result =
        ((layout.compose 0).mapError ConversionError.compose >>= _).result.map _
      rw [Noted.result_bind, Noted.result_bind, Noted.result_mapError, Noted.result_mapError, hbody]
      cases (layout.compose 0).result with
      | error e => rfl
      | ok body => rfl

theorem Layout.compose_depth_only_indents_nested : ∃ layout,
    (Layout.read true ("<FrameLayout><TextView android:text=\"a&#10;b\"/>" ++
      "</FrameLayout>")).result = .ok layout ∧
      (layout.compose 2).result = .ok ("        Box \x7b\n" ++
        "            Text(text = \"a\\nb\")\n        \x7d\n") := by
  obtain ⟨layout, hread, text, hcompose, rfl⟩ : ∃ layout,
      (Layout.read true ("<FrameLayout><TextView android:text=\"a&#10;b\"/>" ++
        "</FrameLayout>")).result = .ok layout ∧
        ∃ text, (layout.compose 0).result = .ok text ∧
          "Box \x7b\n    Text(text = \"a\\nb\")\n\x7d\n" = text := by
    decide +kernel
  have hindented := Layout.compose_depth_only_indents.1 true _ layout hread 2
  rw [hcompose] at hindented
  exact ⟨layout, hread, hindented.trans (by decide +kernel)⟩

end LayoutCompose

import LayoutCompose.Compose.View
import LayoutCompose.Proofs.Outcome
import LayoutCompose.Proofs.Page
import LayoutCompose.Proofs.Views

/-!
Writing a layout in one pass.

A layout is written by making the code of all its views and putting that code on a page. Here views
are put on the page one by one, with a stack of the groups that are open around the next one, and
what stands on the page in the end is shown to be the same. A view that has been written leaves the
stack and the depth of the page as they were. So the next one is written as if it were the first,
and the roots of a layout are composed one after the other, each by itself.
-/

namespace LayoutCompose

theorem Noted.lawfulMonad {ε : Type} : LawfulMonad (Noted ε) := by
  refine LawfulMonad.mk' _ (fun x => ?_) (fun a f => rfl) (fun x f g => ?_)
  · obtain ⟨notes, result⟩ := x
    cases result with
    | error e => rfl
    | ok a => exact congrArg (Noted.mk · (.ok a)) (List.append_nil notes)
  · obtain ⟨notes, result⟩ := x
    cases result with
    | error e => rfl
    | ok a =>
        change Noted.bind (Noted.bind ⟨notes, .ok a⟩ f) g =
          Noted.bind ⟨notes, .ok a⟩ fun a => Noted.bind (f a) g
        simp only [Noted.bind]
        cases (f a).result with
        | error e => rfl
        | ok b => simp only [List.append_assoc]

namespace Kotlin

@[simp] theorem Code.writeAll_append (page : Page) (code rest : List Code) :
    Code.writeAll page (code ++ rest) = Code.writeAll (Code.writeAll page code) rest := by
  induction code generalizing page with
  | nil => rfl
  | cons c code ih => rw [List.cons_append, Code.writeAll, ih, Code.writeAll]

@[simp] theorem Code.writeAll_lines (page : Page) (texts : List String) :
    Code.writeAll page (texts.map .line) = texts.foldl Page.line page := by
  induction texts generalizing page with
  | nil => rfl
  | cons text texts ih => rw [List.map_cons, Code.writeAll, ih, Code.write, List.foldl_cons]

/-- What code adds to a page does not depend on what stands there. -/
theorem Code.writeAll_text (page : Page) (code : List Code) : Code.writeAll page code =
    { page with text := page.text ++ (Code.writeAll { depth := page.depth } code).text } := by
  rw [Code.writeAll_eq, Code.writeAll_eq, Page.addLines, Page.addLines, String.empty_append]

theorem Code.text_writeAll_append (depth : Nat) (code rest : List Code) :
    (Code.writeAll { depth } (code ++ rest)).text =
      (Code.writeAll { depth } code).text ++ (Code.writeAll { depth } rest).text := by
  have hdepth : (Code.writeAll { depth } code).depth = depth := by
    rw [Code.writeAll_eq]
    rfl
  rw [Code.writeAll_append, Code.writeAll_text, hdepth]

end Kotlin

namespace Compose

open Kotlin (Code Page)

/-! ### Drafts -/

/-- A group of which the children are being written: the scope for each, and the index of the one
at hand. -/
structure OpenGroup where
  scope : Nat → Scope
  index : Nat := 0

/-- A page that is being written, and the groups around what comes next, innermost first. -/
structure Draft where
  page : Page
  groups : List OpenGroup := []

namespace Draft

def scope (s : Draft) : Scope :=
  match s.groups with
  | [] => .top
  | g :: _ => g.scope g.index

/-- Goes on to the child at an index of the innermost group. -/
def turnTo (s : Draft) (i : Nat) : Draft :=
  match s.groups with
  | [] => s
  | g :: groups => { s with groups := { g with index := i } :: groups }

def line (s : Draft) (text : String) : Draft :=
  { s with page := s.page.line text }

/-- Begins a block, with its first lines. -/
def enter (s : Draft) (around : Enclosure) : Draft where
  page := around.preamble.foldl Page.line (s.page.enter around.header)
  groups := { scope := around.scope } :: s.groups

def leave (s : Draft) : Draft where
  page := s.page.leave
  groups := s.groups.tail

mutual

/-- Writes a view, unless it is gone. -/
def add (s : Draft) : View → Noted Error Draft
  | .control f c =>
    if f.visibility = .gone then do
      .note (.skipped c.kind)
      return s
    else do return s.line (← controlLine s.scope f c)
  | .group f g children =>
    if f.visibility = .gone then do
      .note (.skipped g.kind)
      return s
    else do
      let around ← enclosure s.scope f g children
      let s ← addAll (s.enter around) 0 children
      return s.leave

/-- Writes views in order, the first at index `i`. -/
def addAll (s : Draft) (i : Nat) : List View → Noted Error Draft
  | [] => pure s
  | v :: vs => do
    let s ← add (s.turnTo i) v
    addAll s (i + 1) vs

end

/-! ### Drafts and code -/

def put (s : Draft) (code : List Code) : Draft :=
  { s with page := Code.writeAll s.page code }

@[simp] theorem put_nil (s : Draft) : s.put [] = s := rfl

theorem put_append (s : Draft) (code rest : List Code) :
    s.put (code ++ rest) = (s.put code).put rest := by
  rw [put, put, put, Code.writeAll_append]

@[simp] theorem put_line (s : Draft) (text : String) : s.put [.line text] = s.line text := rfl

@[simp] theorem put_turnTo (s : Draft) (i : Nat) (code : List Code) :
    (s.turnTo i).put code = (s.put code).turnTo i := by
  obtain ⟨page, groups⟩ := s
  cases groups <;> rfl

@[simp] theorem turnTo_turnTo (s : Draft) (i j : Nat) : (s.turnTo i).turnTo j = s.turnTo j := by
  obtain ⟨page, groups⟩ := s
  cases groups <;> rfl

def scopeAt (s : Draft) (i : Nat) : Scope :=
  (s.turnTo i).scope

@[simp] theorem scopeAt_turnTo (s : Draft) (i : Nat) : (s.turnTo i).scopeAt = s.scopeAt := by
  funext j
  rw [scopeAt, turnTo_turnTo, scopeAt]

@[simp] theorem scopeAt_put (s : Draft) (code : List Code) : (s.put code).scopeAt = s.scopeAt := by
  funext j
  rw [scopeAt, ← put_turnTo]
  rfl

/-- The draft with the innermost group at the last of the views that begin at index `i`. -/
def passed (s : Draft) (i : Nat) : List View → Draft
  | [] => s
  | _ :: vs => s.turnTo (i + vs.length)

@[simp] theorem passed_turnTo (s : Draft) (i : Nat) (v : View) (vs : List View) :
    (s.turnTo i).passed (i + 1) vs = s.passed i (v :: vs) := by
  cases vs with
  | nil => rfl
  | cons w vs =>
      rw [passed, passed, turnTo_turnTo, List.length_cons, Nat.add_right_comm, Nat.add_assoc]

@[simp] theorem leave_passed (s : Draft) (i : Nat) (vs : List View) :
    (s.passed i vs).leave = s.leave := by
  obtain ⟨page, groups⟩ := s
  cases vs with
  | nil => rfl
  | cons v vs => cases groups <;> rfl

@[simp] theorem passed_page (page : Page) (i : Nat) (vs : List View) :
    (Draft.mk page []).passed i vs = ⟨page, []⟩ := by
  cases vs <;> rfl

/-- A block that is begun, filled and ended stands on the page as one piece of code, and the groups
are those from before it. -/
@[simp] theorem leave_put_enter (s : Draft) (around : Enclosure) (body : List Code) :
    ((s.enter around).put body).leave =
      s.put [.block around.header (around.preamble.map Code.line ++ body)] := by
  change Draft.mk _ _ = Draft.mk _ _
  rw [Code.writeAll, Code.writeAll, Code.write, Code.writeAll_append, Code.writeAll_lines]
  rfl

/-- What one view does to a draft: its code is put on the page, and nothing else changes. -/
def AddsCode (v : View) : Prop :=
  ∀ s : Draft, s.add v = do
    let code ← viewCode s.scope v
    return s.put code

/-- Views in a row put their code on the page, and only the index in the group around them
changes. -/
theorem addAll_of_addsCode {vs : List View} (h : ∀ v ∈ vs, AddsCode v) (s : Draft) (i : Nat) :
    s.addAll i vs = do
      let code ← viewsCode s.scopeAt i vs
      return (s.put code).passed i vs := by
  have := @Noted.lawfulMonad Error
  induction vs generalizing s i with
  | nil => rfl
  | cons v vs ih =>
      rw [List.forall_mem_cons] at h
      have hput (code rest : List Code) :
          (((s.turnTo i).put code).put rest).passed (i + 1) vs =
            (s.put (code ++ rest)).passed i (v :: vs) := by
        rw [put_turnTo, put_turnTo, put_append, passed_turnTo]
      rw [addAll, h.1, viewsCode]
      simp only [bind_assoc, pure_bind]
      refine congrArg (viewCode (s.scopeAt i) v >>= ·) (funext fun code => ?_)
      rw [ih h.2, scopeAt_put, scopeAt_turnTo]
      simp only [hput]

theorem addsCode (v : View) : AddsCode v := by
  have := @Noted.lawfulMonad Error
  induction v with
  | control f c =>
      intro s
      rw [add, viewCode]
      split
      · simp only [bind_assoc, pure_bind, put_nil]
      · simp only [bind_assoc, pure_bind, put_line]
  | group f g children ih =>
      intro s
      rw [add, viewCode]
      split
      · simp only [bind_assoc, pure_bind, put_nil]
      · have hscope (around : Enclosure) : (s.enter around).scopeAt = around.scope := rfl
        simp only [addAll_of_addsCode ih, hscope, bind_assoc, pure_bind, leave_passed,
          leave_put_enter]

/-- Views outside all groups put their code on the page. -/
theorem addAll_page (page : Page) (vs : List View) :
    (Draft.mk page []).addAll 0 vs = do
      let code ← viewsCode (fun _ => .top) 0 vs
      return ⟨Code.writeAll page code, []⟩ := by
  have hscope : (Draft.mk page []).scopeAt = fun _ => .top := rfl
  have hput (code : List Code) :
      ((Draft.mk page []).put code).passed 0 vs = ⟨Code.writeAll page code, []⟩ :=
    passed_page ..
  rw [addAll_of_addsCode fun v _ => addsCode v, hscope]
  simp only [hput]

end Draft

end Compose

open Compose (Draft)

theorem View.compose_eq_add (v : View) (depth : Nat) : v.compose depth = do
    let s ← (Draft.mk { depth } []).add v
    return s.page.text := by
  have := @Noted.lawfulMonad Compose.Error
  rw [View.compose, Draft.addsCode]
  simp only [bind_assoc, pure_bind]
  rfl

theorem Layout.compose_eq_addAll (layout : Layout) (depth : Nat) : layout.compose depth = do
    let s ← (Draft.mk { depth } []).addAll 0 layout.roots
    return s.page.text := by
  have := @Noted.lawfulMonad Compose.Error
  rw [Layout.compose, Draft.addAll_page]
  simp only [bind_assoc, pure_bind]

theorem Compose.viewsCode_const (scope : Scope) (i j : Nat) (vs : List View) :
    viewsCode (fun _ => scope) i vs = viewsCode (fun _ => scope) j vs := by
  induction vs generalizing i j with
  | nil => rfl
  | cons v vs ih => rw [viewsCode, viewsCode, ih (i + 1) (j + 1)]

/-- The first root is composed by itself, and then the others. -/
theorem Layout.compose_cons (v : View) (vs : List View) (depth : Nat) :
    Layout.compose ⟨v :: vs⟩ depth = do
      let first ← v.compose depth
      let rest ← Layout.compose ⟨vs⟩ depth
      return first ++ rest := by
  have := @Noted.lawfulMonad Compose.Error
  simp only [Layout.compose, View.compose, Compose.viewsCode, bind_assoc, pure_bind,
    Kotlin.Code.text_writeAll_append, Compose.viewsCode_const .top (0 + 1) 0]

theorem Layout.compose_append (vs ws : List View) (depth : Nat) :
    Layout.compose ⟨vs ++ ws⟩ depth = do
      let first ← Layout.compose ⟨vs⟩ depth
      let rest ← Layout.compose ⟨ws⟩ depth
      return first ++ rest := by
  have := @Noted.lawfulMonad Compose.Error
  induction vs with
  | nil =>
      have hnone : Layout.compose ⟨[]⟩ depth = pure "" := rfl
      simp only [hnone, List.nil_append, pure_bind, String.empty_append, bind_pure]
  | cons v vs ih =>
      rw [List.cons_append, compose_cons, ih, compose_cons]
      simp only [bind_assoc, pure_bind, String.append_assoc]

theorem Layout.compose_eq_mapM (layout : Layout) (depth : Nat) : layout.compose depth = do
    return String.join (← layout.roots.mapM fun v => v.compose depth) := by
  have := @Noted.lawfulMonad Compose.Error
  obtain ⟨roots⟩ := layout
  induction roots with
  | nil => rfl
  | cons v vs ih =>
      rw [compose_cons, ih, List.mapM_cons]
      simp only [bind_assoc, pure_bind, String.join_cons]

/-- Roots are composed independently of each other. Those in front are composed first, with their
code in front of the others' or the error of the first that fails; so a layout is composed by
composing each root by itself. This is what writing in one pass comes to: a view that has been
written in any place adds its own code at the depth of the page, and leaves that depth and the
groups around it as they were. -/
theorem Layout.compose_roots_independent (depth : Nat) :
    (∀ vs ws : List View, Layout.compose ⟨vs ++ ws⟩ depth = do
      let first ← Layout.compose ⟨vs⟩ depth
      let rest ← Layout.compose ⟨ws⟩ depth
      return first ++ rest) ∧
    (∀ layout : Layout, layout.compose depth = do
      return String.join (← layout.roots.mapM fun v => v.compose depth)) ∧
    (∀ v : View, v.compose depth = do
      let s ← (Draft.mk { depth } []).add v
      return s.page.text) ∧
    (∀ layout : Layout, layout.compose depth = do
      let s ← (Draft.mk { depth } []).addAll 0 layout.roots
      return s.page.text) ∧
    ∀ (s t : Draft) (v : View), (s.add v).result = .ok t →
      t.groups = s.groups ∧ t.page.depth = s.page.depth ∧ ∃ code,
        (Compose.viewCode s.scope v).result = .ok code ∧
          t.page.text =
            s.page.text ++ (Kotlin.Code.writeAll { depth := s.page.depth } code).text := by
  refine ⟨fun vs ws => compose_append vs ws depth, fun layout => compose_eq_mapM layout depth,
    fun v => v.compose_eq_add depth, fun layout => compose_eq_addAll layout depth,
    fun s t v h => ?_⟩
  rw [Draft.addsCode, Noted.result_bind, Outcome.Except_bind_eq_ok] at h
  obtain ⟨code, hcode, ht⟩ := h
  obtain rfl := Except.ok.inj ht
  rw [Draft.put, Kotlin.Code.writeAll_text]
  exact ⟨rfl, rfl, code, hcode, rfl⟩

/-- A column with a view that is gone is written into a row that is open. -/
theorem Layout.compose_roots_independent_nested : ∃ t,
    ((Draft.mk { depth := 1, text := "Row \x7b\n" } [{ scope := fun _ => .row }]).add
      (.group { weight := Single.one } (.column {})
        [.control {} .plain, .control { visibility := .gone } .plain])).result = .ok t ∧
    t.groups = [{ scope := fun _ => .row }] ∧ t.page.depth = 1 := by
  obtain ⟨t, ht⟩ : Outcome.Succeeds
      ((Draft.mk { depth := 1, text := "Row \x7b\n" } [{ scope := fun _ => .row }]).add
        (.group { weight := Single.one } (.column {})
          [.control {} .plain, .control { visibility := .gone } .plain])).result := by
    decide +kernel
  obtain ⟨hgroups, hdepth, -⟩ := (Layout.compose_roots_independent 0).2.2.2.2 _ t _ ht
  exact ⟨t, ht, hgroups, hdepth⟩

end LayoutCompose

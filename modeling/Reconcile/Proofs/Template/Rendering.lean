import Reconcile.Proofs.Tables
import Reconcile.Proofs.Template.Grammar
import Reconcile.Template.Rendering

/-!
# What templates are filled in with

* `render_eq` — a template without a dollar sign is filled in as if it had been scanned.
* `Template.fill_segmentsOf` — a filled-in template, part by part.
* `get?_mergeVariables` — the variables of a run stand before those of an action.
* `placeholderText` — the text that stands for a name.
* `render_fills` — a template is filled in segment by segment, from nothing but the values of its
  names.
-/

namespace Reconcile

variable {vars : Table Json} {env : Environment}

/-! ## Parts -/

/-- The text that stands for a part: that of its name, or the part as it is spelled. -/
def Piece.text (vars : Table Json) (env : Environment) (p : Piece) : List Char :=
  match p.name? with
  | some name => (valueText vars env (String.ofList name)).toList
  | none => p.spelling

namespace Template

theorem fill_cons (x : Segment) (xs : List Segment) :
    fill vars env ⟨x :: xs⟩ = x.text vars env ++ fill vars env ⟨xs⟩ := by
  rw [fill, List.map_cons, String.join_cons]
  rfl

/-- Literal characters in front of segments stand in front of their text. -/
theorem fill_consLiteral (cs : List Char) (segments : List Segment) :
    (fill vars env ⟨consLiteral cs segments⟩).toList = cs ++ (fill vars env ⟨segments⟩).toList := by
  unfold consLiteral
  split
  · rw [fill_cons, fill_cons, String.toList_append, String.toList_append, Segment.text,
      Segment.text, String.toList_ofList, List.append_assoc]
  · split
    · rename_i hempty
      rw [List.isEmpty_iff.mp hempty, List.nil_append]
    · rw [fill_cons, String.toList_append, Segment.text, String.toList_ofList]

/-- **A filled-in template**, part by part. -/
theorem fill_segmentsOf (ps : List Piece) :
    (fill vars env ⟨segmentsOf ps⟩).toList = ps.flatMap (Piece.text vars env) := by
  induction ps with
  | nil => rfl
  | cons p ps ih =>
    rw [List.flatMap_cons, Piece.text]
    cases hname : p.name? with
    | none => rw [segmentsOf_unnamed hname, fill_consLiteral, ih]
    | some name => rw [segmentsOf_named hname, fill_cons, String.toList_append, ih]; rfl

end Template

/-! ## Templates without names -/

/-- A text without a dollar sign is one run, or nothing. -/
theorem pieces_of_no_dollar {cs : List Char} (h : '$' ∉ cs) :
    pieces cs = if cs = [] then [] else [.run cs] := by
  rw [pieces_eq_iff]
  split
  · rename_i hnil
    rw [hnil]
    exact .nil
  · rename_i hne
    have hrun := Decomposition.cons (p := .run cs) ⟨hne, h, fun c hc => by cases hc⟩ .nil
    rwa [List.append_nil] at hrun

theorem fill_scan_of_no_dollar {s : String} (h : '$' ∉ s.toList) (vars : Table Json)
    (env : Environment) :
    (Template.scan s).1.fill vars env = s ∧ (Template.scan s).2 = none := by
  have hpieces := pieces_of_no_dollar h
  rw [← String.toList_inj, Template.scan, hpieces]
  split
  · rename_i hnil
    exact ⟨hnil.symm, rfl⟩
  · refine ⟨?_, rfl⟩
    rw [Template.fill_segmentsOf, List.flatMap_singleton]
    rfl

/-- **A template without a dollar sign** is filled in as if it had been scanned. -/
theorem render_eq (vars : Table Json) (env : Environment) (s : String) :
    render vars env s = ⟨(Template.scan s).1.fill vars env, (Template.scan s).2⟩ := by
  unfold render
  by_cases h : '$' ∈ s.toList
  · rw [if_pos (List.contains_iff_mem.mpr h)]
  · obtain ⟨htext, hproblem⟩ := fill_scan_of_no_dollar h vars env
    rw [if_neg (fun hc => h (List.contains_iff_mem.mp hc)), htext, hproblem]

/-! ## Values -/

theorem get?_mergeVariables (own : Dict Json) (runtime : Table Json) (name : String) :
    (mergeVariables own runtime).get? name = (runtime.get? name).or (own.get? name) := by
  rw [mergeVariables, Table.get?_union, Table.get?_ofList own.distinct]
  rfl

/-- The text that stands for a name: its value in the store of a run, else among the variables of an
action, else what the environment says, else nothing. -/
def placeholderText (own : Dict Json) (runtime : Table Json) (env : Environment) (name : String) :
    String :=
  match runtime.get? name with
  | some v => v.plainText
  | none =>
    match own.get? name with
    | some v => v.plainText
    | none =>
      match env name with
      | some t => t
      | none => ""

/-- The text that stands for a segment; literals stand for themselves. -/
def Segment.filled (own : Dict Json) (runtime : Table Json) (env : Environment) :
    Segment → String
  | .literal s => s
  | .variable name => placeholderText own runtime env name

theorem valueText_mergeVariables (own : Dict Json) (runtime : Table Json) (env : Environment)
    (name : String) :
    valueText (mergeVariables own runtime) env name = placeholderText own runtime env name := by
  rw [valueText, get?_mergeVariables, placeholderText]
  cases runtime.get? name with
  | some v => rfl
  | none =>
    cases own.get? name with
    | some v => rfl
    | none => cases env name <;> rfl

theorem Segment.text_mergeVariables (own : Dict Json) (runtime : Table Json) (env : Environment)
    (x : Segment) : x.text (mergeVariables own runtime) env = x.filled own runtime env := by
  match x with
  | .literal s => rfl
  | .variable name => exact valueText_mergeVariables own runtime env name

/-! ## Templates -/

/-- The text of a template: those of its segments one after the other. -/
def Template.filled (own : Dict Json) (runtime : Table Json) (env : Environment)
    (segments : List Segment) : String :=
  String.join (segments.map (Segment.filled own runtime env))

section Templates

variable (own : Dict Json) (runtime : Table Json) (env : Environment)

theorem Template.fill_mergeVariables (t : Template) :
    t.fill (mergeVariables own runtime) env = Template.filled own runtime env t.segments := by
  have htext : Segment.text (mergeVariables own runtime) env = Segment.filled own runtime env :=
    funext fun x => Segment.text_mergeVariables own runtime env x
  rw [fill, filled, htext]

theorem Template.filled_append (xs ys : List Segment) :
    filled own runtime env (xs ++ ys) = filled own runtime env xs ++ filled own runtime env ys := by
  rw [filled, List.map_append, String.join_append]
  rfl

/-- Values of other names do not matter. -/
theorem Template.filled_congr {own' : Dict Json} {runtime' : Table Json} {env' : Environment}
    {t : Template} (h : ∀ name ∈ t.names, runtime'.get? name = runtime.get? name ∧
      own'.get? name = own.get? name ∧ env' name = env name) :
    filled own' runtime' env' t.segments = filled own runtime env t.segments := by
  rw [filled, filled]
  refine congrArg String.join (List.map_congr_left fun x hx => ?_)
  match x with
  | .literal s => rfl
  | .variable name =>
    have hname : name ∈ t.names := List.mem_filterMap.mpr ⟨.variable name, hx, rfl⟩
    obtain ⟨hruntime, hown, henv⟩ := h name hname
    rw [Segment.filled, Segment.filled, placeholderText, placeholderText, hruntime, hown, henv]

/-- **What a template is filled in with.** Its segments stand one after the other: literals as they
are, and for each name its value in the store of the run, else among the variables of the action,
else what the environment says, else nothing. A value goes in as it is, whatever it holds, between
the texts of the segments around it. A template without a dollar sign, which is not scanned, comes
out as its scan would. Values of names that the template does not have do not matter. -/
theorem render_fills (s : String) :
    (render (mergeVariables own runtime) env s).text =
        Template.filled own runtime env (Template.scan s).1.segments ∧
      (render (mergeVariables own runtime) env s).problem = (Template.scan s).2 ∧
      (∀ front name back, (Template.scan s).1.segments = front ++ .variable name :: back →
        (render (mergeVariables own runtime) env s).text =
          Template.filled own runtime env front ++ placeholderText own runtime env name ++
            Template.filled own runtime env back) ∧
      ('$' ∉ s.toList → Template.filled own runtime env (Template.scan s).1.segments = s ∧
        (Template.scan s).2 = none) ∧
      ∀ (own' : Dict Json) (runtime' : Table Json) (env' : Environment),
        (∀ name ∈ (Template.scan s).1.names, runtime'.get? name = runtime.get? name ∧
          own'.get? name = own.get? name ∧ env' name = env name) →
        render (mergeVariables own' runtime') env' s =
          render (mergeVariables own runtime) env s := by
  have htext : ∀ own runtime env, (render (mergeVariables own runtime) env s).text =
      Template.filled own runtime env (Template.scan s).1.segments := by
    intro own runtime env
    rw [render_eq, Template.fill_mergeVariables]
  refine ⟨htext own runtime env, by rw [render_eq], ?_, fun hdollar => ?_, ?_⟩
  · intro front name back hsegments
    rw [htext, hsegments, List.append_cons, Template.filled_append, Template.filled_append]
    simp only [Template.filled, List.map_cons, List.map_nil, String.join_cons, String.join_nil,
      String.append_empty, Segment.filled]
  · rw [← Template.fill_mergeVariables]
    exact fill_scan_of_no_dollar hdollar _ _
  · intro own' runtime' env' hagree
    rw [render_eq, render_eq, Template.fill_mergeVariables, Template.fill_mergeVariables,
      Template.filled_congr own runtime env hagree]

/-- A value that looks like a template goes in as it is, and a variable without a placeholder does
not matter. -/
theorem render_fills_templateLike :
    let own : Dict Json := .ofList [("x", .string "own"), ("n", .null)]
    let runtime : Table Json := .ofList [("x", .string "\x7bx\x7d$y$")]
    let env : Environment := fun _ => some "e"
    let s := "$x\x7b$\x7bn\x7d$\x7by\x7d"
    (Template.scan s).1.segments =
        [.variable "x", .literal "\x7b"] ++ .variable "n" :: [.variable "y"] ∧
      (render (mergeVariables own runtime) env s).text =
        Template.filled own runtime env [.variable "x", .literal "\x7b"] ++
          placeholderText own runtime env "n" ++
            Template.filled own runtime env [.variable "y"] ∧
      render (mergeVariables own runtime) env s = ⟨"\x7bx\x7d$y$\x7be", none⟩ ∧
      Template.filled own runtime env (Template.scan "\x7bx\x7d").1.segments = "\x7bx\x7d" ∧
      render (mergeVariables own (runtime.insert "z" .null)) env s =
        render (mergeVariables own runtime) env s := by
  intro own runtime env s
  have hsegments : (Template.scan s).1.segments =
      [.variable "x", .literal "\x7b"] ++ .variable "n" :: [.variable "y"] := by decide +kernel
  obtain ⟨-, -, hsplit, -, hagree⟩ := render_fills own runtime env s
  obtain ⟨-, -, -, hplain, -⟩ := render_fills own runtime env "\x7bx\x7d"
  refine ⟨hsegments, hsplit _ _ _ hsegments, by decide +kernel, (hplain (by decide)).1, ?_⟩
  refine hagree own _ env fun name hname => ⟨?_, rfl, rfl⟩
  have hz : name ≠ "z" := by
    rintro rfl
    revert hname
    decide +kernel
  exact Table.get?_insert_of_ne hz runtime .null

end Templates

end Reconcile

import Reconcile.Cli.Arguments
import Reconcile.Proofs.Results

/-!
# Command lines without their output flags

`--format` and `--quiet` say what a command prints, and nothing else that is said on a command line
depends on them.

* `withoutOutput`, `withoutOutputFlags` — the arguments of a command and a command line without
  those flags.
* `Draft.Takes`, `Leads` — what the arguments of a command and a command line may begin with.
* `Draft.read_withoutOutput` — the other arguments of a command are read as before.
* `readCommandLine_withoutOutputFlags` — and so is the command line.
-/

namespace Reconcile.Cli

/-- Whether a setting says what is printed. -/
def Setting.isOutput : Setting → Bool
  | format | quiet => true
  | logLevel | timeout | maxBytes => false

/-- The arguments of a command without those that say what is printed. -/
def withoutOutput (page : Page) : List String → List String
  | [] => []
  | a :: rest =>
    match Word.of a with
    | .escape => a :: rest
    | .plain _ => a :: withoutOutput page rest
    -- the only letter that is no fault says that nothing is printed
    | .short _ => withoutOutput page rest
    | .long name value =>
      match page.settings.find? (fun s => s.name == name), value, rest with
      | some s, some _, rest =>
        if s.isOutput then withoutOutput page rest else a :: withoutOutput page rest
      | some .quiet, none, rest => withoutOutput page rest
      | some s, none, v :: rest' =>
        if s.isOutput then withoutOutput page rest' else a :: v :: withoutOutput page rest'
      | _, _, rest => a :: rest

/-- A command line without the flags that say what is printed. -/
def withoutOutputFlags : List String → List String
  | [] => []
  | a :: rest =>
    match Word.of a with
    | .plain s => a :: withoutOutput (if s == "execute" then .execute else .validate) rest
    | .long _ (some _) => a :: withoutOutputFlags rest
    | .long _ none =>
      match rest with
      | v :: rest' => a :: v :: withoutOutputFlags rest'
      | [] => [a]
    | _ => a :: rest

/-! ## The arguments of a command -/

namespace Draft

/-- The arguments of a command as if nothing was said about what is printed. -/
def plainly (d : Draft) : Draft :=
  { d with format := none, quiet := none }

variable {page : Page} {d d' : Draft}

theorem operand_plainly {s : String} (h : d.operand page s = .ok d') :
    d.plainly.operand page s = .ok d'.plainly := by
  unfold operand at h ⊢
  show (if d.path.isSome then _ else _) = _
  split
  · rw [if_pos ‹_›] at h
    cases h
  · rw [if_neg ‹_›] at h
    split
    · rw [if_pos ‹_›] at h
      cases h
    · rw [if_neg ‹_›] at h
      cases h
      rfl

theorem operands_plainly {args : List String} (h : d.operands page args = .ok d') :
    d.plainly.operands page args = .ok d'.plainly := by
  induction args generalizing d with
  | nil => cases h; rfl
  | cons s rest ih =>
    obtain ⟨d₁, hs, hrest⟩ := of_bind_eq_ok h
    rw [operands, operand_plainly hs]
    exact ih hrest

theorem silence_plainly (h : d.silence page = .ok d') : d'.plainly = d.plainly := by
  obtain ⟨quiet, _, hd⟩ := of_bind_eq_ok h
  cases hd
  rfl

/-- The letters of a command say only what is printed. -/
theorem letters_plainly {cs : List Char} (h : d.letters page cs = .ok d') :
    d'.plainly = d.plainly := by
  induction cs generalizing d with
  | nil => cases h; rfl
  | cons c cs ih =>
    unfold letters at h
    split at h
    · cases h; rfl
    · cases h
    · rename_i heq
      cases heq
      obtain ⟨d₁, hs, hrest⟩ := of_bind_eq_ok h
      exact (ih hrest).trans (silence_plainly hs)
    · cases h

theorem set_of_isOutput {s : Setting} {text : String} (hs : s.isOutput = true)
    (h : d.set page s text = .ok d') : d'.plainly = d.plainly := by
  cases s with
  | format =>
    obtain ⟨format, _, hd⟩ := of_bind_eq_ok h
    cases hd
    rfl
  | quiet => cases h
  | logLevel => cases hs
  | timeout => cases hs
  | maxBytes => cases hs

theorem set_plainly {s : Setting} {text : String} (hs : s.isOutput = false)
    (h : d.set page s text = .ok d') : d.plainly.set page s text = .ok d'.plainly := by
  cases s with
  | format => cases hs
  | quiet => cases hs
  | logLevel | timeout | maxBytes =>
    obtain ⟨value, hv, hd⟩ := of_bind_eq_ok h
    cases hd
    unfold set
    simp only [plainly]
    rw [hv]
    rfl

/-! How an argument is read, by its form. -/

/-- Arguments that begin with one of some form, what it does to those read so far, and the
arguments after it and its value. -/
inductive Takes (page : Page) :
    List String → (Draft → Except Stop Draft) → List String → Prop
  | plain {a text : String} {rest : List String} (ha : Word.of a = .plain text) :
    Takes page (a :: rest) (·.operand page text) rest
  | short {a : String} {cs : List Char} {rest : List String} (ha : Word.of a = .short cs) :
    Takes page (a :: rest) (·.letters page cs) rest
  | valued {a name text : String} {rest : List String} {s : Setting}
    (ha : Word.of a = .long name (some text))
    (hs : page.settings.find? (fun s => s.name == name) = some s) :
    Takes page (a :: rest) (·.set page s text) rest
  | quiet {a name : String} {rest : List String} (ha : Word.of a = .long name none)
    (hs : page.settings.find? (fun s => s.name == name) = some .quiet) :
    Takes page (a :: rest) (·.silence page) rest
  | next {a name v text : String} {rest : List String} {s : Setting}
    (ha : Word.of a = .long name none)
    (hs : page.settings.find? (fun s => s.name == name) = some s) (hq : s ≠ .quiet)
    (hv : Word.of v = .plain text) :
    Takes page (a :: v :: rest) (·.set page s text) rest

theorem read_escape {a : String} {rest : List String} (ha : Word.of a = .escape) :
    d.read page (a :: rest) = d.operands page rest := by
  rw [read, ha]

/-- **Arguments are read one after the other.** -/
theorem read_of_takes {args rest : List String} {step : Draft → Except Stop Draft}
    (h : Takes page args step rest) (d : Draft) :
    d.read page args = step d >>= fun d => d.read page rest := by
  cases h with
  | plain ha => rw [read, ha]
  | short ha => rw [read, ha]
  | valued ha hs =>
    rw [read, ha]
    simp only [hs]
  | quiet ha hs =>
    rw [read, ha]
    simp only [hs]
  | @next _ _ _ _ _ s ha hs hq hv =>
    rw [read, ha]
    simp only [hs]
    cases s with
    | quiet => exact absurd rfl hq
    | logLevel | format | timeout | maxBytes => simp only [hv]

/-- An argument that was read has one of the forms. -/
theorem takes_of_read {a : String} {rest : List String} (h : d.read page (a :: rest) = .ok d') :
    Word.of a = .escape ∨ ∃ step rest', Takes page (a :: rest) step rest' := by
  rw [read] at h
  split at h
  · exact .inl ‹_›
  · exact .inr ⟨_, _, .plain ‹_›⟩
  · exact .inr ⟨_, _, .short ‹_›⟩
  · split at h
    · exact .inr ⟨_, _, .quiet ‹_› ‹_›⟩
    · exact .inr ⟨_, _, .valued ‹_› ‹_›⟩
    · split at h
      · exact .inr ⟨_, _, .next ‹_› ‹_› ‹_› ‹_›⟩
      · cases h
    · cases h
    · cases h
    · cases h

/-- An option that needs a value takes it from the next argument, which is plain. -/
theorem plain_of_read {a v name : String} {rest : List String} {s : Setting}
    (ha : Word.of a = .long name none)
    (hs : page.settings.find? (fun s => s.name == name) = some s) (hq : s ≠ .quiet)
    (h : d.read page (a :: v :: rest) = .ok d') : ∃ text, Word.of v = .plain text := by
  obtain hw | ⟨_, _, ht⟩ := takes_of_read h
  · cases ha.symm.trans hw
  · cases ht with
    | plain hw | short hw | valued hw _ => cases ha.symm.trans hw
    | quiet hw hquiet =>
      cases ha.symm.trans hw
      rw [hs] at hquiet
      exact absurd (Option.some.inj hquiet) hq
    | next _ _ _ hv => exact ⟨_, hv⟩

/-- **The other arguments of a command are read as before.** -/
theorem read_withoutOutput {args : List String} (h : d.read page args = .ok d') :
    d.plainly.read page (withoutOutput page args) = .ok d'.plainly := by
  fun_induction withoutOutput page args generalizing d with
  | case1 => cases h; rfl
  | case2 a rest ha =>
    rw [read_escape ha] at h ⊢
    exact operands_plainly h
  | case3 a rest s ha ih =>
    rw [read_of_takes (.plain ha)] at h ⊢
    obtain ⟨d₁, hs, hrest⟩ := of_bind_eq_ok h
    rw [operand_plainly hs]
    exact ih hrest
  | case4 a rest cs ha ih =>
    rw [read_of_takes (.short ha)] at h
    obtain ⟨d₁, hs, hrest⟩ := of_bind_eq_ok h
    rw [← letters_plainly hs]
    exact ih hrest
  | case5 a name s v rest hs hout ha ih =>
    rw [read_of_takes (.valued ha hs)] at h
    obtain ⟨d₁, hset, hrest⟩ := of_bind_eq_ok h
    rw [← set_of_isOutput hout hset]
    exact ih hrest
  | case6 a name s v rest hs hout ha ih =>
    rw [read_of_takes (.valued ha hs)] at h ⊢
    obtain ⟨d₁, hset, hrest⟩ := of_bind_eq_ok h
    rw [set_plainly (by simpa using hout) hset]
    exact ih hrest
  | case7 a name rest hs ha ih =>
    rw [read_of_takes (.quiet ha hs)] at h
    obtain ⟨d₁, hsilence, hrest⟩ := of_bind_eq_ok h
    rw [← silence_plainly hsilence]
    exact ih hrest
  | case8 a name s v rest hq hs hout ha ih =>
    obtain ⟨text, hv⟩ := plain_of_read ha hs hq h
    rw [read_of_takes (.next ha hs hq hv)] at h
    obtain ⟨d₁, hset, hrest⟩ := of_bind_eq_ok h
    rw [← set_of_isOutput hout hset]
    exact ih hrest
  | case9 a name s v rest hq hs hout ha ih =>
    obtain ⟨text, hv⟩ := plain_of_read ha hs hq h
    rw [read_of_takes (.next ha hs hq hv)] at h ⊢
    obtain ⟨d₁, hset, hrest⟩ := of_bind_eq_ok h
    rw [set_plainly (by simpa using hout) hset]
    exact ih hrest
  | case10 a name value ha rest hvalued hquiet hnext =>
    -- there is no such option, or its value is missing
    exfalso
    obtain hw | ⟨_, _, ht⟩ := takes_of_read h
    · cases ha.symm.trans hw
    · cases ht with
      | plain hw | short hw => cases ha.symm.trans hw
      | valued hw hs =>
        cases ha.symm.trans hw
        exact hvalued _ _ hs rfl
      | quiet hw hs =>
        cases ha.symm.trans hw
        exact hquiet hs rfl
      | next hw hs _ _ =>
        cases ha.symm.trans hw
        exact hnext _ _ _ hs rfl rfl

end Draft

/-! ## Command lines -/

variable {env : Environment} {i : Invocation}

/-- An invocation that prints for people. -/
def Invocation.plainly (i : Invocation) : Invocation :=
  { i with output := {} }

theorem Draft.invocation_plainly {page : Page} {d : Draft}
    (h : d.invocation page env = .ok i) : d.plainly.invocation page env = .ok i.plainly := by
  have hmap : d.plainly.invocation page env =
      (d.invocation page env).map Invocation.plainly := by
    unfold invocation
    cases page with
    | execute =>
      cases hs : settled .execute env d.timeout timeoutVariable 30 with
      | error stop => simp only [plainly, hs]; rfl
      | ok seconds =>
        cases hb : settled .execute env d.maxBytes maxBytesVariable 4194304 with
        | error stop => simp only [plainly, hs, hb]; rfl
        | ok bytes => cases hp : d.path <;> simp only [plainly, hs, hb, hp] <;> rfl
    | program | validate | help => cases hp : d.path <;> simp only [plainly, hp] <;> rfl
  rw [hmap, h]
  rfl

/-- A command with its arguments is read as before. -/
theorem read_command_withoutOutput {page : Page} {rest : List String}
    (h : (Draft.read page {} rest >>= fun d => d.invocation page env) = .ok i) :
    (Draft.read page {} (withoutOutput page rest) >>= fun d => d.invocation page env) =
      .ok i.plainly := by
  obtain ⟨d, hd, hi⟩ := of_bind_eq_ok h
  have hread : Draft.read page {} (withoutOutput page rest) = .ok d.plainly :=
    Draft.read_withoutOutput hd
  rw [hread]
  exact Draft.invocation_plainly hi

theorem readCommand_withoutOutput {name : String} {rest : List String}
    (h : readCommand env name rest = .ok i) :
    readCommand env name
      (withoutOutput (if name == "execute" then .execute else .validate) rest) =
        .ok i.plainly := by
  unfold readCommand at h ⊢
  split at h
  · rename_i hn
    rw [if_pos hn, if_pos hn]
    exact read_command_withoutOutput h
  · rename_i hn
    rw [if_neg hn, if_neg hn]
    split at h
    · rename_i hv
      rw [if_pos hv]
      exact read_command_withoutOutput h
    · split at h <;> cases h

/-- What a command line begins with that is accepted, a command or the log filter, and what comes
of the whole line then. -/
inductive Leads (env : Environment) :
    Option String → List String → Except Stop Invocation → Prop
  | plain {level : Option String} {a s : String} {rest : List String}
    (ha : Word.of a = .plain s) : Leads env level (a :: rest) (readCommand env s rest)
  | valued {level level' : Option String} {a v : String} {rest : List String}
    (ha : Word.of a = .long "log-level" (some v))
    (hk : keepOnce .program "--log-level" v level (some v) = .ok level') :
    Leads env level (a :: rest) (readFrom env level' rest)
  | next {level level' : Option String} {a v text : String} {rest : List String}
    (ha : Word.of a = .long "log-level" none) (hv : Word.of v = .plain text)
    (hk : keepOnce .program "--log-level" text level (some text) = .ok level') :
    Leads env level (a :: v :: rest) (readFrom env level' rest)

theorem readFrom_of_leads {level : Option String} {args : List String}
    {result : Except Stop Invocation} (h : Leads env level args result) :
    readFrom env level args = result := by
  cases h with
  | plain ha =>
    rw [readFrom.eq_def]
    simp only [ha]
  | valued ha hk =>
    rw [readFrom.eq_def]
    simp only [ha, hk]
    rfl
  | next ha hv hk =>
    rw [readFrom.eq_def]
    simp only [ha, hv, hk]
    rfl

theorem leads_of_readFrom {level : Option String} {args : List String}
    (h : readFrom env level args = .ok i) :
    ∃ result, Leads env level args result ∧ result = .ok i := by
  rw [readFrom.eq_def] at h
  split at h
  · cases h
  · simp only at h
    split at h
    · exact ⟨_, .plain ‹_›, h⟩
    · cases h
    · cases h
    · obtain ⟨level', hk, hrest⟩ := of_bind_eq_ok h
      exact ⟨_, .valued ‹_› hk, hrest⟩
    · split at h
      · split at h
        · obtain ⟨level', hk, hrest⟩ := of_bind_eq_ok h
          exact ⟨_, .next ‹_› ‹_› hk, hrest⟩
        · cases h
      · cases h
    · cases h
    · cases h
    · cases h

theorem readFrom_withoutOutputFlags {level : Option String} {args : List String}
    (h : readFrom env level args = .ok i) :
    readFrom env level (withoutOutputFlags args) = .ok i.plainly := by
  fun_induction withoutOutputFlags args generalizing level with
  | case1 => cases h
  | case2 a rest s ha =>
    rw [readFrom_of_leads (.plain ha)] at h ⊢
    exact readCommand_withoutOutput h
  | case3 a rest name v ha ih =>
    obtain ⟨result, hl, hresult⟩ := leads_of_readFrom h
    cases hl with
    | plain hw | next hw _ _ => cases ha.symm.trans hw
    | valued hw hk =>
      cases ha.symm.trans hw
      rw [readFrom_of_leads (.valued ha hk)]
      exact ih hresult
  | case4 a name ha v rest ih =>
    obtain ⟨result, hl, hresult⟩ := leads_of_readFrom h
    cases hl with
    | plain hw | valued hw _ => cases ha.symm.trans hw
    | next hw hv hk =>
      cases ha.symm.trans hw
      rw [readFrom_of_leads (.next ha hv hk)]
      exact ih hresult
  | case5 a name ha =>
    obtain ⟨result, hl, -⟩ := leads_of_readFrom h
    cases hl with
    | plain hw | valued hw _ => cases ha.symm.trans hw
  | case6 a rest hplain hvalued hnone =>
    obtain ⟨result, hl, -⟩ := leads_of_readFrom h
    cases hl with
    | plain hw => exact (hplain _ hw).elim
    | valued hw _ => exact (hvalued _ _ hw).elim
    | next hw _ _ => exact (hnone _ hw).elim

/-- **A command line is read as before without its output flags**, but for what it prints. -/
theorem readCommandLine_withoutOutputFlags {args : List String}
    (h : readCommandLine env args = .ok i) :
    readCommandLine env (withoutOutputFlags args) = .ok i.plainly :=
  readFrom_withoutOutputFlags h

end Reconcile.Cli

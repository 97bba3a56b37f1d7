import QubershipAirflow.Library.Runs

/-! Shell scripts: commands one after the other, `set -e` and `set +e`, traps, and loops
without an end. A command of status other than 0 ends the script only under `set -e`, and
the status of a script is that of its last command. A signal may end it at any point. -/
namespace ShellScripts

inductive Command (Ext : Type) where
  | errexit (on : Bool)
  /-- `trap "exit status" signals` -/
  | trapExit (signals : List Nat) (status : Nat)
  | run (ext : Ext)
  | forever (body : List (Command Ext))

/-- What a command may do: the environment chooses, and the status comes with the effect. -/
abbrev Tools (Ext World Choice : Type) := Ext → Choice → World → Nat × World

structure Config (Ext World : Type) where
  todo : List (Command Ext)
  errexit : Bool
  /-- Signals that end the script with a status of its own. -/
  traps : List (Nat × Nat)
  status : Nat
  world : World
  /-- The signal that ended the script. -/
  stopped : Option Nat

inductive Event (Choice : Type) where
  | command (choice : Choice)
  | signal (number : Nat)

variable {Ext World Choice : Type}

/-- The script is over, and not by a signal. -/
def Config.Exited (config : Config Ext World) : Prop :=
  config.todo = [] ∧ config.stopped = none

def begin (script : List (Command Ext)) (world : World) : Config Ext World :=
  ⟨script, false, [], 0, world, none⟩

def Config.perform (tools : Tools Ext World Choice) (config : Config Ext World)
    (choice : Choice) : Option (Config Ext World) :=
  match config.todo with
  | [] => none
  | .errexit on :: rest => some { config with todo := rest, errexit := on, status := 0 }
  | .trapExit signals status :: rest =>
      some { config with
        todo := rest, traps := signals.map (·, status) ++ config.traps, status := 0 }
  | .forever body :: rest => some { config with todo := body ++ .forever body :: rest }
  | .run ext :: rest =>
      let result := tools ext choice config.world
      let todo := if result.1 ≠ 0 ∧ config.errexit then [] else rest
      some { config with todo := todo, status := result.1, world := result.2 }

/-- A signal ends the script with the status of its trap, or by its default action. -/
def Config.stop (config : Config Ext World) (signal : Nat) : Option (Config Ext World) :=
  match config.stopped with
  | some _ => none
  | none =>
      some { config with
        todo := [], status := (config.traps.lookup signal).getD (128 + signal),
        stopped := some signal }

def step (tools : Tools Ext World Choice) (config : Config Ext World) :
    Event Choice → Option (Config Ext World)
  | .command choice => config.perform tools choice
  | .signal number => config.stop number

/-- Outlines of scripts. Every command starts where its guard holds; under `set -e` the
script may end at every command. The middle assertions are about the last status and the
world. -/
inductive Outline (tools : Tools Ext World Choice) (guard : Command Ext → World → Prop)
    (exits : Nat → World → Prop) :
    Bool → (Nat → World → Prop) → List (Command Ext) → Bool → (Nat → World → Prop) → Prop where
  | nil {errexit : Bool} {pre post : Nat → World → Prop}
      (hpost : ∀ status world, pre status world → post status world) :
      Outline tools guard exits errexit pre [] errexit post
  | errexit {before after : Bool} {pre post : Nat → World → Prop}
      {rest : List (Command Ext)} (on : Bool)
      (hguard : ∀ status world, pre status world → guard (.errexit on) world)
      (hrest : Outline tools guard exits on
        (fun status world => status = 0 ∧ ∃ earlier, pre earlier world) rest after post) :
      Outline tools guard exits before pre (.errexit on :: rest) after post
  | trapExit {before after : Bool} {pre post : Nat → World → Prop}
      {rest : List (Command Ext)} (signals : List Nat) (own : Nat)
      (hguard : ∀ status world, pre status world → guard (.trapExit signals own) world)
      (hrest : Outline tools guard exits before
        (fun status world => status = 0 ∧ ∃ earlier, pre earlier world) rest after post) :
      Outline tools guard exits before pre (.trapExit signals own :: rest) after post
  | run {before after : Bool} {pre middle post : Nat → World → Prop} {ext : Ext}
      {rest : List (Command Ext)}
      (hguard : ∀ status world, pre status world → guard (.run ext) world)
      (hfails : before = true → ∀ status world choice, pre status world →
        (tools ext choice world).1 ≠ 0 →
        exits (tools ext choice world).1 (tools ext choice world).2)
      (hnext : ∀ status world choice, pre status world →
        (before = true → (tools ext choice world).1 = 0) →
        middle (tools ext choice world).1 (tools ext choice world).2)
      (hrest : Outline tools guard exits before middle rest after post) :
      Outline tools guard exits before pre (.run ext :: rest) after post
  | forever {errexit after : Bool} {pre inv post : Nat → World → Prop}
      {body rest : List (Command Ext)}
      (hguard : ∀ status world, inv status world → guard (.forever body) world)
      (hpre : ∀ status world, pre status world → inv status world)
      (hbody : Outline tools guard exits errexit inv body errexit inv) :
      Outline tools guard exits errexit pre (.forever body :: rest) after post

section Soundness

variable {tools : Tools Ext World Choice} {guard : Command Ext → World → Prop}
  {exits : Nat → World → Prop} {before between after : Bool}
  {pre middle post : Nat → World → Prop} {first second : List (Command Ext)}

theorem Outline.weaken {pre' : Nat → World → Prop} {script : List (Command Ext)}
    (h : Outline tools guard exits before pre script after post)
    (hpre : ∀ status world, pre' status world → pre status world) :
    Outline tools guard exits before pre' script after post := by
  induction h generalizing pre' with
  | nil hpost => exact .nil fun status world h => hpost status world (hpre status world h)
  | errexit on hguard hrest ih =>
    refine .errexit on (fun status world h => hguard status world (hpre status world h)) (ih ?_)
    rintro status world ⟨hzero, earlier, hearlier⟩
    exact ⟨hzero, earlier, hpre earlier world hearlier⟩
  | trapExit signals own hguard hrest ih =>
    refine .trapExit signals own
      (fun status world h => hguard status world (hpre status world h)) (ih ?_)
    rintro status world ⟨hzero, earlier, hearlier⟩
    exact ⟨hzero, earlier, hpre earlier world hearlier⟩
  | run hguard hfails hnext hrest ih =>
    exact .run (fun status world h => hguard status world (hpre status world h))
      (fun hon status world choice h => hfails hon status world choice (hpre status world h))
      (fun status world choice h => hnext status world choice (hpre status world h)) hrest
  | forever hguard hinv hbody ih =>
    exact .forever hguard (fun status world h => hinv status world (hpre status world h)) hbody

theorem Outline.switch {pre' : Nat → World → Prop} {script : List (Command Ext)} (on : Bool)
    (hguard : ∀ status world, pre status world → guard (.errexit on) world)
    (hpre : ∀ status world, pre status world → pre' 0 world)
    (h : Outline tools guard exits on pre' script after post) :
    Outline tools guard exits before pre (.errexit on :: script) after post := by
  refine .errexit on hguard (h.weaken ?_)
  rintro status world ⟨rfl, earlier, hearlier⟩
  exact hpre earlier world hearlier

theorem Outline.append (h : Outline tools guard exits before pre first between middle)
    (h' : Outline tools guard exits between middle second after post) :
    Outline tools guard exits before pre (first ++ second) after post := by
  induction h with
  | nil hpost => exact h'.weaken hpost
  | errexit on hguard hrest ih => exact .errexit on hguard (ih h')
  | trapExit signals own hguard hrest ih => exact .trapExit signals own hguard (ih h')
  | run hguard hfails hnext hrest ih => exact .run hguard hfails hnext (ih h')
  | forever hguard hinv hbody => exact .forever hguard hinv hbody

theorem Outline.checked {exts : List Ext}
    (hguard : ∀ ext ∈ exts, ∀ world, guard (.run ext) world)
    (hexits : ∀ status world, status ≠ 0 → exits status world) :
    Outline tools guard exits true (fun _ _ => True) (exts.map .run) true
      (fun _ _ => True) := by
  induction exts with
  | nil => exact .nil fun _ _ h => h
  | cons ext rest ih =>
    exact .run (fun _ world _ => hguard ext List.mem_cons_self world)
      (fun _ _ _ _ _ hfails => hexits _ _ hfails) (fun _ _ _ _ _ => trivial)
      (ih fun ext hext => hguard ext (List.mem_cons_of_mem _ hext))

/-- Where a signal may end a script: in front of a command, or at its end. -/
def Stops (guard : Command Ext → World → Prop) (exits : Nat → World → Prop) (world : World) :
    Prop :=
  (∃ command, guard command world) ∨ ∃ status, exits status world

def Follows (tools : Tools Ext World Choice) (guard : Command Ext → World → Prop)
    (exits : Nat → World → Prop) (config : Config Ext World) : Prop :=
  config.todo = [] ∧ config.stopped ≠ none ∧ Stops guard exits config.world ∨
    config.todo = [] ∧ config.stopped = none ∧ exits config.status config.world ∨
    config.stopped = none ∧ ∃ pre after post,
      Outline tools guard exits config.errexit pre config.todo after post ∧
        pre config.status config.world ∧ ∀ status world, post status world → exits status world

theorem Outline.stops {script : List (Command Ext)} {status : Nat} {world : World}
    (h : Outline tools guard exits before pre script after post) (hpre : pre status world)
    (hpost : ∀ status world, post status world → exits status world) :
    Stops guard exits world := by
  cases h with
  | nil hlast => exact .inr ⟨status, hpost status world (hlast status world hpre)⟩
  | errexit on hguard hrest => exact .inl ⟨_, hguard status world hpre⟩
  | trapExit signals own hguard hrest => exact .inl ⟨_, hguard status world hpre⟩
  | run hguard hfails hnext hrest => exact .inl ⟨_, hguard status world hpre⟩
  | forever hguard hinv hbody => exact .inl ⟨_, hguard status world (hinv status world hpre)⟩

theorem Follows.perform {config next : Config Ext World} {choice : Choice}
    (h : Follows tools guard exits config) (hstep : config.perform tools choice = some next) :
    Follows tools guard exits next := by
  obtain ⟨todo, errexit, traps, status, world, stopped⟩ := config
  obtain ⟨rfl, -⟩ | ⟨rfl, -⟩ | ⟨rfl, pre, after, post, houtline, hpre, hpost⟩ := h
  · cases hstep
  · cases hstep
  cases houtline with
  | nil hlast => cases hstep
  | errexit on hguard hrest =>
    cases hstep
    exact .inr (.inr ⟨rfl, _, after, post, hrest, ⟨rfl, status, hpre⟩, hpost⟩)
  | trapExit signals own hguard hrest =>
    cases hstep
    exact .inr (.inr ⟨rfl, _, after, post, hrest, ⟨rfl, status, hpre⟩, hpost⟩)
  | forever hguard hinv hbody =>
    cases hstep
    exact .inr (.inr ⟨rfl, _, after, post, hbody.append (.forever hguard (fun _ _ h => h) hbody),
      hinv status world hpre, hpost⟩)
  | run hguard hfails hnext hrest =>
    rename_i ext rest
    cases hstep
    by_cases hends : (tools ext choice world).1 ≠ 0 ∧ errexit = true
    · exact .inr (.inl
        ⟨if_pos hends, rfl, hfails hends.2 status world choice hpre hends.1⟩)
    · refine .inr (.inr
        ⟨rfl, _, after, post, ?_, hnext status world choice hpre fun herrexit => ?_, hpost⟩)
      · simpa only [if_neg hends] using hrest
      · exact by_contra fun hne => hends ⟨hne, herrexit⟩

theorem Config.stop_eq_some {config next : Config Ext World} {signal : Nat}
    (h : config.stop signal = some next) : config.stopped = none ∧
      next = { config with
        todo := [], status := (config.traps.lookup signal).getD (128 + signal),
        stopped := some signal } := by
  unfold Config.stop at h
  split at h
  · cases h
  · exact ⟨by assumption, (Option.some.inj h).symm⟩

theorem Follows.step {config next : Config Ext World} {event : Event Choice}
    (h : Follows tools guard exits config) (hstep : step tools config event = some next) :
    Follows tools guard exits next := by
  cases event with
  | command choice => exact h.perform hstep
  | signal number =>
    obtain ⟨hstopped, rfl⟩ := Config.stop_eq_some hstep
    refine .inl ⟨rfl, by simp, ?_⟩
    obtain ⟨-, hne, -⟩ | ⟨-, -, hexits⟩ | ⟨-, pre, after, post, houtline, hpre, hpost⟩ := h
    · exact absurd hstopped hne
    · exact .inr ⟨_, hexits⟩
    · exact houtline.stops hpre hpost

/-- Outlines are sound: whatever the tools do, a script starts its commands where their
guards hold, exits as the outline says, and is stopped only in such places. -/
theorem Outline.sound {script : List (Command Ext)} {world : World}
    (h : Outline tools guard exits false pre script after post) (hpre : pre 0 world)
    (hpost : ∀ status world, post status world → exits status world)
    {config : Config Ext World}
    (hrun : Runs.Reaches (ShellScripts.step tools) (begin script world) config) :
    (∀ command rest, config.todo = command :: rest → guard command config.world) ∧
      (config.Exited → exits config.status config.world) ∧ Stops guard exits config.world := by
  have hfollows : Follows tools guard exits config :=
    hrun.invariant (fun _ _ _ h hstep => h.step hstep)
      (.inr (.inr ⟨rfl, pre, after, post, h, hpre, hpost⟩))
  obtain ⟨htodo, hstopped, hstops⟩ | ⟨htodo, -, hexits⟩ |
    ⟨-, pre, after, post, houtline, hpre, hpost⟩ := hfollows
  · exact ⟨by simp [htodo], fun hexited => absurd hexited.2 hstopped, hstops⟩
  · exact ⟨by simp [htodo], fun _ => hexits, .inr ⟨_, hexits⟩⟩
  · refine ⟨fun command rest htodo => ?_, fun hexited => ?_, houtline.stops hpre hpost⟩
    · rw [htodo] at houtline
      cases houtline with
      | errexit on hguard _ => exact hguard _ _ hpre
      | trapExit signals own hguard _ => exact hguard _ _ hpre
      | run hguard _ _ _ => exact hguard _ _ hpre
      | forever hguard hinv _ => exact hguard _ _ (hinv _ _ hpre)
    · rw [hexited.1] at houtline
      cases houtline with
      | nil hlast => exact hpost _ _ (hlast _ _ hpre)

end Soundness

section Signals

variable {tools : Tools Ext World Choice}

inductive Command.Untrapped : Command Ext → Prop where
  | errexit (on : Bool) : Untrapped (.errexit on)
  | run (ext : Ext) : Untrapped (.run ext)
  | forever {body : List (Command Ext)} (hbody : ∀ command ∈ body, Untrapped command) :
      Untrapped (.forever body)

/-- The traps stay as they are where no command sets one, and end a stopped script. -/
structure Trapped (own : List (Nat × Nat)) (config : Config Ext World) : Prop where
  traps : config.traps = own
  untrapped : ∀ command ∈ config.todo, command.Untrapped
  status : ∀ signal, config.stopped = some signal →
    config.todo = [] ∧ config.status = (own.lookup signal).getD (128 + signal)

theorem Trapped.step {traps : List (Nat × Nat)} {config next : Config Ext World}
    {event : Event Choice} (h : Trapped traps config)
    (hstep : ShellScripts.step tools config event = some next) : Trapped traps next := by
  cases event with
  | signal number =>
    obtain ⟨-, rfl⟩ := Config.stop_eq_some hstep
    refine ⟨h.traps, by simp, ?_⟩
    rintro _ ⟨⟩
    exact ⟨rfl, by rw [h.traps]⟩
  | command choice =>
    have huntrapped := h.untrapped
    have hstatus := h.status
    simp only [ShellScripts.step, Config.perform] at hstep
    split at hstep <;> rename_i htodo <;> cases hstep <;> rw [htodo] at huntrapped hstatus
    · exact ⟨h.traps, fun command hcommand => huntrapped command (List.mem_cons_of_mem _ hcommand),
        fun signal hsignal => absurd (hstatus signal hsignal).1 (List.cons_ne_nil _ _)⟩
    · cases huntrapped _ List.mem_cons_self
    · obtain ⟨hhead, -⟩ := List.forall_mem_cons.mp huntrapped
      cases hhead with
      | forever hbody =>
        refine ⟨h.traps, fun command hcommand => ?_,
          fun signal hsignal => absurd (hstatus signal hsignal).1 (List.cons_ne_nil _ _)⟩
        obtain hbefore | hafter := List.mem_append.mp hcommand
        · exact hbody command hbefore
        · exact huntrapped command hafter
    · refine ⟨h.traps, fun command hcommand => ?_,
        fun signal hsignal => absurd (hstatus signal hsignal).1 (List.cons_ne_nil _ _)⟩
      dsimp only at hcommand
      split at hcommand
      · cases hcommand
      · exact huntrapped command (List.mem_cons_of_mem _ hcommand)

end Signals

end ShellScripts

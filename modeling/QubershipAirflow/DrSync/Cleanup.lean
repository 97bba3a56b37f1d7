import QubershipAirflow.DrSync.Managed
import QubershipAirflow.DrSync.Undisturbed

/-! Which snapshots runs leave behind. A validation removes the one snapshot before the
latest, so what an earlier run could not remove stays for good. -/
namespace QubershipAirflow.DrSync

open Runs

/-- The sites agree on the latest snapshot while one of them holds an older one. -/
def View.littered (v : View) : Bool :=
  v.latest .main = v.latest .dr ∧ (1 < (v.numbers .main).length ∨ 1 < (v.numbers .dr).length)

/-- No run ends without success while there is something left to remove. -/
def State.endsTidily (state : State) (move : Move) : Bool :=
  !(state.fails move && state.sites.view.littered)

/-- What a history of tidy runs leaves. In the last case every later run refuses to
copy. -/
inductive Settled (v : View) : Prop where
  | empty (hmain : v.names .main = []) (hdr : v.names .dr = [])
  | first (hmain : v.names .main = [snapshotName (1 : Nat)]) (hdr : v.names .dr = [])
  | both (n : Nat) (hmain : v.names .main = [snapshotName n])
      (hdr : v.names .dr = [snapshotName n])
  | apart (hdr : v.latest .dr ≠ -1) (hne : v.latest .main ≠ v.latest .dr)

section Latest

variable {v : View} {site : Site}

theorem latest_of_nil (h : v.names site = []) : v.latest site = -1 := by
  rw [View.latest, h]
  rfl

theorem latest_of_one {n : Nat} (h : v.names site = [snapshotName n]) : v.latest site = n := by
  rw [View.latest, h, ← List.nil_append [snapshotName n]]
  apply latestNumber_append
  rw [latestNumber_nil]
  omega

theorem latest_of_two {n : Nat}
    (h : v.names site = [snapshotName n, snapshotName (n + 1 : Nat)]) :
    v.latest site = (n + 1 : Nat) := by
  have hone : latestNumber ([] ++ [snapshotName n]) = n := by
    apply latestNumber_append
    rw [latestNumber_nil]
    omega
  have htwo : latestNumber ([snapshotName n] ++ [snapshotName (n + 1 : Nat)]) =
      (n + 1 : Nat) := by
    apply latestNumber_append
    rw [List.nil_append] at hone
    omega
  rw [View.latest, h]
  exact htwo

theorem numbers_of_one {n : Nat} (h : v.names site = [snapshotName n]) :
    v.numbers site = [n] := by
  simp [View.numbers, h]

theorem numbers_of_two {n : Nat}
    (h : v.names site = [snapshotName n, snapshotName (n + 1 : Nat)]) :
    v.numbers site = [n, n + 1] := by
  simp only [View.numbers, h, List.filterMap_cons, snapshotNumber?_snapshotName,
    List.filterMap_nil]

end Latest

theorem filter_ne_two (n : Nat) :
    [snapshotName n, snapshotName (n + 1 : Nat)].filter (· ≠ snapshotName n) =
      [snapshotName (n + 1 : Nat)] := by
  have hne : snapshotName (n + 1 : Nat) ≠ snapshotName n := by
    intro heq
    have := snapshotName_inj.mp heq
    omega
  simp only [ne_eq, decide_not, List.filter_cons, decide_true, Bool.not_true,
    Bool.false_eq_true, if_false, hne, decide_false, Bool.not_false, if_true,
    List.filter_nil]

def OneEach (v : View) : Prop :=
  ∃ n : Nat, v.names .main = [snapshotName n] ∧ v.names .dr = [snapshotName n]

inductive Prepared (v : View) : Prop where
  | first (hmain : v.names .main = [snapshotName (1 : Nat)]) (hdr : v.names .dr = [])
  | next (n : Nat) (hmain : v.names .main = [snapshotName n, snapshotName (n + 1 : Nat)])
      (hdr : v.names .dr = [snapshotName n])

theorem Prepared.settled {v : View} (h : Prepared v) : Settled v := by
  cases h with
  | first hmain hdr => exact .first hmain hdr
  | next n hmain hdr =>
    have hm := latest_of_two hmain
    have hd := latest_of_one hdr
    exact .apart (by omega) (by omega)

theorem Prepared.withDrTree {v : View} (h : Prepared v) (tree : Tree) :
    Prepared (v.withDrTree tree) := by
  cases h with
  | first hmain hdr => exact .first (by simpa using hmain) (by simpa using hdr)
  | next n hmain hdr => exact .next n (by simpa using hmain) (by simpa using hdr)

theorem Prepares.prepared {v after : View} {branch : Branch} (h : Prepares v branch after)
    (hsettled : Settled v) : Prepared after := by
  cases h with
  | first tree folder hmain hdr hfolder hempty =>
    cases hsettled with
    | empty hm hd => exact .first (by simp [hm]) (by simpa using hd)
    | first hm hd => have := latest_of_one hm; omega
    | both n hm hd => have := latest_of_one hm; omega
    | apart hd hne => exact absurd hdr hd
  | again tree folder n hmain hdr hfolder hempty =>
    cases hsettled with
    | empty hm hd => have := latest_of_nil hm; omega
    | first hm hd =>
      have hlatest := latest_of_one hm
      obtain rfl : n = 1 := by omega
      exact .first (by simp [hm]) (by simpa using hd)
    | both m hm hd => have := latest_of_one hd; omega
    | apart hd hne => exact absurd hdr hd
  | update tree n hmain hdr =>
    cases hsettled with
    | empty hm hd => have := latest_of_nil hm; omega
    | first hm hd => have := latest_of_nil hd; omega
    | both m hm hd =>
      have hlatest := latest_of_one hm
      obtain rfl : n = m := by omega
      refine .next n ?_ (by simpa using hd)
      rw [View.names_addMain_main, hm]
      rfl
    | apart hd hne => omega

theorem Settled.drop {v : View} (h : Settled v) {n : Nat} (hmain : v.latest .main = n)
    (hdr : v.latest .dr = -1) : Settled (v.drop .main (snapshotName n)) := by
  cases h with
  | empty hm hd => have := latest_of_nil hm; omega
  | first hm hd =>
    have hlatest := latest_of_one hm
    obtain rfl : n = 1 := by omega
    exact .empty (by simp [hm]) (by simpa using hd)
  | both m hm hd => have := latest_of_one hd; omega
  | apart hd hne => exact absurd hdr hd

theorem Settled.keeps_check {v : View} (h : Settled v) :
    Keeps (fun v => v.littered = false → Settled v) (fun _ => True)
      (fun branch v => branch.targetFolder = ⟨.dr, .folder⟩ ∧ Prepared v)
      checkFolderState v := by
  apply keeps_checkFolderState (fun _ => h)
  · intro n hmain hdr _
    exact h.drop hmain hdr
  · intro branch after hprepares
    have hprepared := hprepares.prepared h
    exact ⟨fun _ => hprepared.settled, hprepares.targetFolder, hprepared⟩

theorem OneEach.settled {v : View} (h : OneEach v) : Settled v := by
  obtain ⟨n, hmain, hdr⟩ := h
  exact .both n hmain hdr

/-- While both snapshots of an update are on the DR site, the sites are littered. -/
theorem littered_of_two {v : View} {n : Nat} (hmain : v.latest .main = (n + 1 : Nat))
    (hdr : v.names .dr = [snapshotName n, snapshotName (n + 1 : Nat)]) :
    v.littered = true := by
  have hlatest := latest_of_two hdr
  have hnumbers := numbers_of_two hdr
  simp [View.littered, hmain, hlatest, hnumbers]

theorem Prepared.keeps_validate {v : View} (h : Prepared v) :
    Keeps (fun v => v.littered = false → Settled v) (fun _ => True) (fun _ => OneEach)
      validateDistcpSuccessful v := by
  apply keeps_validateDistcpSuccessful (fun _ => h.settled)
  intro after hconfirms
  have hmain := hconfirms.names_main
  have hdr := hconfirms.names_dr
  cases h with
  | first hm hd =>
    rw [latest_of_one hm] at hdr ⊢
    rw [hm] at hmain
    rw [hd, List.nil_append] at hdr
    have hprevious : ∀ site, after.withoutPrevious site (1 : Nat) = after := by
      intro site
      have hne : snapshotName (0 : Nat) ≠ snapshotName (1 : Nat) :=
        fun heq => absurd (snapshotName_inj.mp heq) (by decide)
      apply View.drop_of_lookup
      change (after.snapshots site).lookup (snapshotName (0 : Nat)) = none
      rw [lookup_eq_none]
      cases site with
      | main => rw [hmain]; simpa using hne
      | dr => rw [hdr]; simpa using hne
    have hone : OneEach after := ⟨1, hmain, hdr⟩
    rw [hprevious, hprevious]
    exact ⟨fun _ => hone.settled, trivial, fun _ => hone.settled, fun _ => hone.settled, hone⟩
  | next n hm hd =>
    rw [latest_of_two hm] at hdr ⊢
    rw [hm] at hmain
    rw [hd] at hdr
    have hprevious : ((n + 1 : Nat) : Int) - 1 = n := by omega
    have hboth : OneEach ((after.withoutPrevious .main (n + 1 : Nat)).withoutPrevious .dr
        (n + 1 : Nat)) := by
      refine ⟨n + 1, ?_, ?_⟩ <;> rw [View.names_withoutPrevious, hprevious]
      · rw [hmain, filter_ne_two]
      · rw [hdr]
        exact filter_ne_two n
    have hlittered : after.littered = true := littered_of_two (latest_of_two hmain) hdr
    have hlittered' : (after.withoutPrevious .main (n + 1 : Nat)).littered = true := by
      unfold View.withoutPrevious
      rw [hprevious]
      refine littered_of_two (v := after.drop .main (snapshotName n)) (latest_of_one ?_) hdr
      rw [View.names_drop_main, hmain, filter_ne_two]
    refine ⟨fun h => ?_, trivial, fun h => ?_, fun _ => hboth.settled, hboth⟩
    · rw [hlittered] at h
      cases h
    · rw [hlittered'] at h
      cases h

def tidy : Discipline State.endsTidily where
  resting := Settled
  always := fun v => v.littered = false → Settled v
  rejected := fun _ => True
  ready := fun branch v => branch.targetFolder = ⟨.dr, .folder⟩ ∧ Prepared v
  done := OneEach
  check := fun _ h => h.keeps_check
  target := fun _ _ h => h.1
  validate := fun _ _ tree _ _ h => (h.2.withDrTree tree).keeps_validate
  torn := fun _ _ tree h => (h.2.withDrTree tree).settled
  ended := by
    intro state move hallowed hfails halways
    apply halways
    unfold State.endsTidily at hallowed
    rw [hfails] at hallowed
    simpa using hallowed
  completed := fun _ _ h => h.settled

theorem tidy_runs_leave_one_snapshot {start finish : State} (hstart : start.Fresh)
    (hrun : Reaches (restrictAt State.step State.endsTidily) start finish)
    (hcompleted : finish.phase = .idle (some .completed)) :
    ∃ n, finish.sites.view.numbers .main = [n] ∧ finish.sites.view.numbers .dr = [n] := by
  have hnames : ∀ site, start.sites.view.names site = [] := by
    intro site
    rw [View.names, snapshotsOf_eq]
    cases site with
    | main => simp [Sites.folder, hstart.main]
    | dr => simp [Sites.folder, hstart.dr]
  have hfresh : tidy.Holds start := by
    unfold Discipline.Holds
    rw [hstart.idle]
    exact ⟨.empty (hnames .main) (hnames .dr), by simp, by simp⟩
  have hholds := tidy.holds hrun hfresh
  unfold Discipline.Holds at hholds
  rw [hcompleted] at hholds
  obtain ⟨n, hmain, hdr⟩ := hholds.2.1 rfl
  exact ⟨n, numbers_of_one hmain, numbers_of_one hdr⟩

section Littered

variable {v : View}

theorem View.littered_iff : v.littered = true ↔
    v.latest .main = v.latest .dr ∧ ∃ site, 1 < (v.numbers site).length := by
  simp only [littered, decide_eq_true_iff]
  refine and_congr_right fun _ => ⟨?_, ?_⟩
  · rintro (hmain | hdr)
    · exact ⟨.main, hmain⟩
    · exact ⟨.dr, hdr⟩
  · rintro ⟨site, hmany⟩
    cases site with
    | main => exact Or.inl hmany
    | dr => exact Or.inr hmany

theorem View.littered_of_names {w : View} (h : ∀ site, w.names site = v.names site) :
    w.littered = v.littered := by
  rw [Bool.eq_iff_iff, View.littered_iff, View.littered_iff]
  simp only [latest, numbers, h]

theorem View.littered_latest (h : v.littered = true) :
    ∃ n : Nat, v.latest .main = n ∧ v.latest .dr = n := by
  obtain ⟨hsame, site, hmany⟩ := View.littered_iff.mp h
  have hsite : ∀ other, v.latest other = v.latest site := by
    intro other
    cases site <;> cases other <;> first | rfl | exact hsame | exact hsame.symm
  obtain hnone | ⟨n, hn⟩ := latestNumber_cases (v.names site)
  · have hnumbers : v.numbers site = [] := latestNumber_eq_neg_one.mp hnone
    simp [hnumbers] at hmany
  · exact ⟨n, (hsite .main).trans hn, (hsite .dr).trans hn⟩

theorem Managed.exists_older (h : Managed v) {site : Site} {n : Nat}
    (hlatest : v.latest site = n) (hmany : 1 < (v.numbers site).length) :
    ∃ k < n, snapshotName k ∈ v.names site := by
  have hother : ∃ name ∈ v.names site, name ≠ snapshotName n := by
    by_contra hall
    push Not at hall
    have hreplicate := List.eq_replicate_of_mem hall
    have hdistinct := h.distinct site
    rw [hreplicate, List.nodup_replicate] at hdistinct
    have hle := List.length_filterMap_le snapshotNumber? (v.names site)
    change (v.numbers site).length ≤ _ at hle
    omega
  obtain ⟨name, hmem, hne⟩ := hother
  obtain ⟨k, rfl⟩ := h.named site name hmem
  have hle : (k : Int) ≤ v.latest site := le_latestNumber hmem (snapshotNumber?_snapshotName k)
  have hk : k ≠ n := fun heq => hne (by rw [heq])
  exact ⟨k, by omega, hmem⟩

theorem one_lt_length {l : List Nat} {a b : Nat} (ha : a ∈ l) (hb : b ∈ l) (hne : a ≠ b) :
    1 < l.length := by
  match l with
  | [] => cases ha
  | [c] =>
    rw [List.mem_singleton] at ha hb
    omega
  | _ :: _ :: _ => simp

/-- The next run copies once more and leaves the older snapshot where it is. -/
theorem Managed.reaches_littered {state : State} (h : Managed state.sites.view)
    {last : Option Outcome} (hidle : state.phase = .idle last)
    (hlittered : state.sites.view.littered = true) :
    ∃ finish, Reaches State.step state finish ∧ finish.phase = .idle (some .completed) ∧
      ∃ site, 1 < (finish.sites.view.numbers site).length := by
  obtain ⟨n, hmain, hdr⟩ := View.littered_latest hlittered
  obtain ⟨-, site, hmany⟩ := View.littered_iff.mp hlittered
  have hlatest : state.sites.view.latest site = n := by cases site <;> assumption
  obtain ⟨k, hk, holder⟩ := h.exists_older hlatest hmany
  obtain ⟨finish, hrun, hcompleted, hnames⟩ := run_completes hidle hmain hdr
  have hkept : ∀ m : Nat, m ≠ n →
      snapshotName m ∈ state.sites.view.names site ++ [snapshotName (n + 1 : Nat)] →
      m ∈ finish.sites.view.numbers site := by
    intro m hm hmem
    have hne : snapshotName m ≠ snapshotName n := fun heq => hm (snapshotName_inj.mp heq)
    refine List.mem_filterMap.mpr ⟨snapshotName m, ?_, snapshotNumber?_snapshotName m⟩
    rw [hnames]
    exact List.mem_filter.mpr ⟨hmem, by simpa using hne⟩
  have hold := hkept k (by omega) (List.mem_append_left _ holder)
  have hnew := hkept (n + 1) (by omega) (by simp)
  exact ⟨finish, hrun, hcompleted, site, one_lt_length hold hnew (by omega)⟩

end Littered

/-- While every run that ends without success leaves nothing to remove, a completed
validation leaves one managed snapshot on each site. After any other end a later run
can complete and leave two. -/
theorem completed_run_leaves_one_snapshot {start : State} (hstart : start.Fresh) :
    (∀ finish, Reaches (restrictAt State.step State.endsTidily) start finish →
      finish.phase = .idle (some .completed) →
      ∃ n, finish.sites.view.numbers .main = [n] ∧ finish.sites.view.numbers .dr = [n]) ∧
    ∀ state move next, Reaches State.step start state → state.step move = some next →
      state.endsTidily move = false →
      ∃ finish, Reaches State.step next finish ∧ finish.phase = .idle (some .completed) ∧
        ∃ site, 1 < (finish.sites.view.numbers site).length := by
  refine ⟨fun finish => tidy_runs_leave_one_snapshot hstart, ?_⟩
  intro state move next hrun hstep huntidy
  have hfails : state.fails move = true ∧ state.sites.view.littered = true := by
    simpa [State.endsTidily] using huntidy
  obtain ⟨⟨last, hidle⟩, hnames⟩ := State.fails_step hfails.1 hstep
  have hmanaged := managed_reachable hstart (hrun.trans (Reaches.single hstep))
  apply hmanaged.reaches_littered hidle
  rw [View.littered_of_names hnames]
  exact hfails.2

def twoTidyRuns : List Move :=
  runUpTo 8 [("part-0", .file [1, 2])] 9 ++ [.next] ++
    runUpTo 7 [("part-0", .file [1, 2])] 11 ++ [.next]

theorem two_tidy_runs_leave_one_snapshot :
    ∃ finish, Reaches (restrictAt State.step State.endsTidily) oneFile finish ∧
      ∃ n, finish.sites.view.numbers .main = [n] ∧ finish.sites.view.numbers .dr = [n] := by
  obtain ⟨finish, hrun, hcheck⟩ := exists_of_replay
    (restrictAt State.step State.endsTidily) oneFile twoTidyRuns
    (fun state => state.phase.idle? = some (some .completed)) (by decide +kernel)
  have hcompleted := Phase.idle?_eq_some.mp (of_decide_eq_true hcheck)
  exact ⟨finish, hrun, (completed_run_leaves_one_snapshot oneFile_fresh).1 finish hrun hcompleted⟩

/-- The second validation is lost before it removes the first DR snapshot. -/
def lostBeforeRemoval : List Move :=
  runUpTo 8 [("part-0", .file [1, 2])] 9 ++ [.next] ++
    runUpTo 7 [("part-0", .file [1, 2])] 9 ++ [.fail] ++
    runUpTo 7 [("part-0", .file [1, 2])] 11 ++ [.next]

theorem older_snapshot_stays :
    oneFile.Fresh ∧ ∃ finish, Reaches State.step oneFile finish ∧
      finish.phase = .idle (some .completed) ∧ finish.sites.view.numbers .main = [3] ∧
      finish.sites.view.numbers .dr = [1, 3] := by
  obtain ⟨finish, hrun, hcheck⟩ := exists_of_replay State.step oneFile lostBeforeRemoval
    (fun state => state.phase.idle? = some (some .completed) ∧
      state.sites.view.numbers .main = [3] ∧ state.sites.view.numbers .dr = [1, 3])
    (by decide +kernel)
  obtain ⟨hphase, hmain, hdr⟩ := of_decide_eq_true hcheck
  exact ⟨oneFile_fresh, finish, hrun, Phase.idle?_eq_some.mp hphase, hmain, hdr⟩

end QubershipAirflow.DrSync

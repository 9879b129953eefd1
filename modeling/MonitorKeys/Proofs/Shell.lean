import MonitorKeys.Proofs.Sink.Children
import MonitorKeys.Shell

/-!
# What the launcher of the shell guarantees

A shell starts when nothing in its arguments has a null character and a directory of the search path
holds it.  Then it runs to its end, and what it leaves behind are files.

* `seekShell_eq_ok_iff` says where the shell is found.
* `start_of_starts` and `start_of_not_starts` are the two ways in which a start goes.
* `start_ne_lost` says that a child can be waited for, and `sameOutside_start` that a start changes
  nothing but files.
* `relays_launcher` is about the children of one run: each of them fails to start or comes to an
  end.  `relays_launcher_of_not_starts` says that none of them starts where the first one does not.
* `history_launcher` and `history_launcher_of_not_starts` carry this over to whole histories.
-/

namespace MonitorKeys.Shell

open Text (Bytes)

/-! ## Finding the shell -/

/-- A directory holds the shell when this name in it leads to a program. -/
def HoldsShell (tree : Tree) (directory : String) : Prop :=
  ∃ place name, tree.resolve "/" (Lookup.joined directory "sh") = .ok place ∧
    place.number.bind tree.node? = some (.program name)

/-- The shell is found where a directory holds it, whatever failed before. -/
theorem seekShell_eq_ok_iff {tree : Tree} {directories : List String} {e : FileError} :
    World.seekShell tree directories e = .ok () ↔
      ∃ directory ∈ directories, HoldsShell tree directory := by
  induction directories generalizing e with
  | nil => simp [World.seekShell]
  | cons directory directories ih =>
    rw [World.seekShell]
    simp only [List.mem_cons, exists_eq_or_imp]
    cases hplace : tree.resolve "/" (Lookup.joined directory "sh") with
    | error e => simp [ih, HoldsShell, hplace]
    | ok place =>
      cases hnode : place.number.bind tree.node? with
      | none => simp [ih, HoldsShell, hplace, hnode]
      | some node => cases node <;> simp [ih, HoldsShell, hplace, hnode]

/-! ## Starts -/

/-- A shell can be started with these arguments. -/
structure World.Starts (world : World) (arguments : List String) : Prop where
  /-- Null characters end the texts that a program is given, so no argument has one. -/
  plain : ∀ argument ∈ arguments, '\x00' ∉ argument.toList
  shell : ∃ directory ∈ world.searchPath, HoldsShell world.tree directory

variable {world : World} {arguments : List String}

theorem any_null_eq_false_iff :
    (arguments.any fun a => a.toList.contains '\x00') = false ↔
      ∀ argument ∈ arguments, '\x00' ∉ argument.toList := by
  simp [List.any_eq_false]

/-- A shell that starts comes to its end, and leaves files behind. -/
theorem start_of_starts (h : world.Starts arguments) (input : Bytes) :
    ∃ refusal status output errors tree,
      start arguments input world =
        (.ended refusal status output errors, { world with tree := tree }) := by
  have hfound : world.findShell = .ok () := seekShell_eq_ok_iff.2 h.shell
  rw [start, any_null_eq_false_iff.2 h.plain, hfound]
  exact ⟨_, _, _, _, _, rfl⟩

/-- Where no shell starts nothing happens. -/
theorem start_of_not_starts (h : ¬ world.Starts arguments) (input : Bytes) :
    ∃ cause, start arguments input world = (.failed cause, world) := by
  rw [start]
  cases hnull : arguments.any fun a => a.toList.contains '\x00' with
  | true => exact ⟨_, rfl⟩
  | false =>
    cases hfound : world.findShell with
    | error e => exact ⟨_, rfl⟩
    | ok _ => exact absurd ⟨any_null_eq_false_iff.1 hnull, seekShell_eq_ok_iff.1 hfound⟩ h

/-- A shell that has started can be waited for. -/
theorem start_ne_lost (arguments : List String) (input : Bytes) (world : World)
    (refusal : Option String) (cause : String) :
    (start arguments input world).1 ≠ .lost refusal cause := by
  by_cases h : world.Starts arguments
  · obtain ⟨_, _, _, _, _, hstart⟩ := start_of_starts h input
    simp [hstart]
  · obtain ⟨_, hstart⟩ := start_of_not_starts h input
    simp [hstart]

/-- A command with a null character in it is never started. -/
theorem not_starts_of_null {text : String} (h : '\x00' ∈ text.toList) :
    ¬ world.Starts (shellArguments text) := by
  intro hstarts
  exact hstarts.plain text (by simp [shellArguments]) h

/-- Two worlds that differ in their files only. -/
structure World.SameOutside (world other : World) : Prop where
  environment : other.environment = world.environment
  outlet : other.outlet = world.outlet

theorem World.SameOutside.refl (world : World) : world.SameOutside world :=
  ⟨rfl, rfl⟩

theorem World.SameOutside.trans {a b c : World} (h : a.SameOutside b) (h' : b.SameOutside c) :
    a.SameOutside c :=
  ⟨h'.environment.trans h.environment, h'.outlet.trans h.outlet⟩

/-- What a shell command does to the environment ends with the command. -/
theorem sameOutside_start (arguments : List String) (input : Bytes) (world : World) :
    world.SameOutside (start arguments input world).2 := by
  by_cases h : world.Starts arguments
  · obtain ⟨refusal, status, output, errors, tree, hstart⟩ := start_of_starts h input
    rw [hstart]
    exact ⟨rfl, rfl⟩
  · obtain ⟨cause, hstart⟩ := start_of_not_starts h input
    rw [hstart]
    exact .refl world

/-! ## Children of one run -/

/-- Each child fails to start or comes to its end, and only files are changed. -/
theorem relays_launcher {lines : List Bytes} {relay : Relay World}
    (h : relay ∈ launcher.relays arguments lines world) :
    (∀ refusal cause, relay.child ≠ .lost refusal cause) ∧ world.SameOutside relay.after := by
  induction lines generalizing world with
  | nil => simp [Launcher.relays] at h
  | cons line lines ih =>
    have hsame : world.SameOutside (launcher.start arguments line world).2 :=
      sameOutside_start arguments line world
    rw [Launcher.relays, List.mem_cons] at h
    rcases h with rfl | h
    · exact ⟨start_ne_lost arguments line world, hsame⟩
    · obtain ⟨hend, hrest⟩ := ih h
      exact ⟨hend, hsame.trans hrest⟩

/-- Where no shell starts, none does for any of the lines, and the world stays as it is. -/
theorem relays_launcher_of_not_starts (hstarts : ¬ world.Starts arguments) {lines : List Bytes}
    {relay : Relay World} (h : relay ∈ launcher.relays arguments lines world) :
    (∃ cause, relay.child = .failed cause) ∧ relay.after = world := by
  induction lines with
  | nil => simp [Launcher.relays] at h
  | cons line lines ih =>
    obtain ⟨cause, hstart⟩ := start_of_not_starts hstarts line
    have hlauncher : launcher.start arguments line world = (.failed cause, world) := hstart
    rw [Launcher.relays, hlauncher, List.mem_cons] at h
    rcases h with rfl | h
    · exact ⟨⟨cause, rfl⟩, rfl⟩
    · exact ih h

/-! ## Histories -/

section History

variable (filter : Log.Filter) (text : String) (delay : Nat) (requests : List Sender.Request)
  (world : World)

theorem keeps_commandSink : (commandSink launcher filter text).Keeps world.SameOutside where
  send _ _ h := h.trans (sameOutside_start _ _ _)
  limit _ _ h := h

/-- Whatever is asked of a sender, its children change nothing but files. -/
theorem history_launcher :
    ∀ outcome ∈ (Sender.mk (commandSink launcher filter text) delay filter).history requests world,
      world.SameOutside outcome.state :=
  Sender.keeps_history (keeps_commandSink filter text world) delay filter requests (.refl world)

theorem keeps_commandSink_of_not_starts (h : ¬ world.Starts (shellArguments text)) :
    (commandSink launcher filter text).Keeps (· = world) where
  send command state hstate := by
    subst hstate
    obtain ⟨cause, hstart⟩ := start_of_not_starts h (lineBytes command)
    exact congrArg Prod.snd hstart
  limit _ _ h := h

/-- Where no shell starts, nothing that is asked of a sender changes the world. -/
theorem history_launcher_of_not_starts (h : ¬ world.Starts (shellArguments text)) :
    ∀ outcome ∈ (Sender.mk (commandSink launcher filter text) delay filter).history requests world,
      outcome.state = world :=
  Sender.keeps_history (keeps_commandSink_of_not_starts filter text world h) delay filter requests
    rfl

end History

end MonitorKeys.Shell

import EscapeTime.Proofs.Session.Independence
import EscapeTime.Proofs.Session.Invariant

set_option autoImplicit false

namespace EscapeTime.Session

inductive Event where
  | compiled (initial step : String)
  | assigned (name : String) (real imag : Float32)

-- Something that succeeded, with the session just before it.
structure Moment where
  before : Session
  event : Event

def seedMoments (session : Session) : List Seed → List Moment
  | [] => []
  | first :: rest =>
      match session.setVariable first.name first.real first.imag with
      | .ok changed => ⟨session, .assigned first.name first.real first.imag⟩ :: changed.seedMoments rest
      | .error _ => []

-- A preset that fails half way still leaves the moments before the failure.
def moments (session : Session) : Operation → List Moment
  | .compile initial step =>
      match session.compile initial step with
      | .ok _ => [⟨session, .compiled initial step⟩]
      | .error _ => []
  | .applyPreset name =>
      match Preset.find name with
      | .error _ => []
      | .ok preset =>
          match session.compile preset.initial preset.step with
          | .error _ => []
          | .ok compiled =>
              ⟨session, .compiled preset.initial preset.step⟩ :: compiled.seedMoments preset.seeds
  | .setVariable name real imag =>
      match session.setVariable name real imag with
      | .ok _ => [⟨session, .assigned name real imag⟩]
      | .error _ => []
  | .setPalette _ => []

def history (session : Session) : List Operation → List Moment
  | [] => []
  | operation :: rest => session.moments operation ++ (session.perform operation).session.history rest

namespace Moment

def Compiles (moment : Moment) : Prop :=
  ∃ initial step, moment.event = .compiled initial step

def Names (name : String) (moment : Moment) : Prop :=
  ∃ initial step, moment.event = .compiled initial step ∧
    (name ∈ (parsed moment.before.settings initial).tree.identifiers ∨
      name ∈ (parsed moment.before.settings step).tree.identifiers)

def Enters (name : String) (moment : Moment) : Prop :=
  moment.Names name ∧ name ∉ moment.before.table.names

def given? (name : String) (moment : Moment) : Option (Float32 × Float32) :=
  match moment.event with
  | .compiled _ _ => none
  | .assigned other real imag => if name = other then some (real, imag) else none

end Moment

-- The value that a name was given last, zero if it was given none.
def lastGiven (name : String) (moments : List Moment) : Float32 × Float32 :=
  (moments.reverse.findSome? (Moment.given? name)).getD (0, 0)

structure Tracks (session : Session) (moments : List Moment) : Prop where
  present : ∀ name, name ∈ session.table.names ↔ ∃ earlier last later,
    moments = earlier ++ last :: later ∧ last.Names name ∧ ∀ moment ∈ later, ¬ moment.Compiles
  values : ∀ name ∈ session.table.names, ∃ earlier entry later,
    moments = earlier ++ entry :: later ∧ entry.Enters name ∧ (∀ moment ∈ later, ¬ moment.Enters name) ∧
      session.table.value? name = some (lastGiven name later)

theorem last_given_append (name : String) (moments : List Moment) (last : Moment) :
    lastGiven name (moments ++ [last]) = (last.given? name).getD (lastGiven name moments) := by
  rw [lastGiven, lastGiven, List.reverse_append, List.reverse_singleton, List.singleton_append, List.findSome?_cons]
  cases last.given? name <;> rfl

theorem Moment.Names.compiles {name : String} {moment : Moment} (names : moment.Names name) : moment.Compiles := by
  obtain ⟨initial, step, event, -⟩ := names
  exact ⟨initial, step, event⟩

theorem assigned_not_compiles (session : Session) (name : String) (real imag : Float32) :
    ¬ Moment.Compiles ⟨session, .assigned name real imag⟩ := by
  rintro ⟨initial, step, event⟩
  cases event

theorem split_last {moments earlier later : List Moment} {moment last : Moment}
    (split : moments ++ [last] = earlier ++ moment :: later) :
    (moments = earlier ∧ last = moment ∧ later = []) ∨
      ∃ rest, later = rest ++ [last] ∧ moments = earlier ++ moment :: rest := by
  rcases List.eq_nil_or_concat later with rfl | ⟨rest, final, rfl⟩
  · obtain ⟨same, final⟩ := List.append_inj' split rfl
    exact .inl ⟨same, List.head_eq_of_cons_eq final, rfl⟩
  · rw [List.concat_eq_append, ← List.cons_append, ← List.append_assoc] at split
    obtain ⟨same, final⟩ := List.append_inj' split rfl
    obtain rfl := List.head_eq_of_cons_eq final
    exact .inr ⟨rest, List.concat_eq_append, same⟩

theorem new_tracks (settings : Settings) : Tracks (new settings) [] where
  present := by simp [new, Variables.empty, Variables.names]
  values := by simp [new, Variables.empty, Variables.names]

theorem Tracks.of_table {session changed : Session} {moments : List Moment} (tracks : Tracks session moments)
    (same : changed.table = session.table) : Tracks changed moments := by
  refine ⟨?_, ?_⟩
  · rw [same]
    exact tracks.present
  · rw [same]
    exact tracks.values

theorem compile_tracks {session changed : Session} {moments : List Moment} {initial step : String}
    (tracks : Tracks session moments) (done : session.compile initial step = .ok changed) :
    Tracks changed (moments ++ [⟨session, .compiled initial step⟩]) := by
  have table := (compile_ok done).2.1
  have named : ∀ name, name ∈ changed.table.names ↔ Moment.Names name ⟨session, .compiled initial step⟩ := by
    intro name
    rw [table, renewed_covers]
    constructor
    · exact fun member => ⟨initial, step, rfl, member⟩
    · rintro ⟨_, _, event, member⟩
      cases event
      exact member
  refine ⟨fun name => ?_, fun name member => ?_⟩
  · rw [named]
    constructor
    · exact fun names => ⟨moments, _, [], rfl, names, by simp⟩
    · rintro ⟨earlier, last, later, split, names, ends⟩
      rcases split_last split with ⟨-, rfl, -⟩ | ⟨rest, rfl, -⟩
      · exact names
      · exact absurd ⟨initial, step, rfl⟩ (ends ⟨session, .compiled initial step⟩ (by simp))
  · have names := (named name).mp member
    have value : changed.table.value? name = some ((session.table.value? name).getD (0, 0)) := by
      rw [table, renewed_value, if_pos ((renewed_covers _ _ _ _ _).mp (table ▸ member))]
    by_cases present : name ∈ session.table.names
    · obtain ⟨earlier, entry, later, split, enters, stays, old⟩ := tracks.values name present
      refine ⟨earlier, entry, later ++ [⟨session, .compiled initial step⟩], by simp [split], enters, ?_, ?_⟩
      · intro moment among
        rcases List.mem_append.mp among with among | among
        · exact stays moment among
        · obtain rfl := List.mem_singleton.mp among
          exact fun again => again.2 present
      · rw [value, old, last_given_append]
        rfl
    · refine ⟨moments, _, [], rfl, ⟨names, present⟩, by simp, ?_⟩
      have missing : session.table.value? name = none := by
        rw [Variables.value?, Option.map_eq_none_iff, ← Option.not_isSome_iff_eq_none, Variables.get?_is_some]
        exact present
      rw [value, missing]
      rfl

theorem set_variable_tracks {session changed : Session} {moments : List Moment} {name : String}
    {real imag : Float32} (tracks : Tracks session moments)
    (done : session.setVariable name real imag = .ok changed) :
    Tracks changed (moments ++ [⟨session, .assigned name real imag⟩]) := by
  have set := (set_variable_ok done).2
  have names : changed.table.names = session.table.names := by
    rw [Variables.names_eq, Variables.layout_set set, ← Variables.names_eq]
  have quiet := assigned_not_compiles session name real imag
  refine ⟨fun other => ?_, fun other member => ?_⟩
  · rw [names, tracks.present]
    constructor
    · rintro ⟨earlier, last, later, rfl, mentions, ends⟩
      refine ⟨earlier, last, later ++ [⟨session, .assigned name real imag⟩], by simp, mentions, ?_⟩
      intro moment among
      rcases List.mem_append.mp among with among | among
      · exact ends moment among
      · exact List.mem_singleton.mp among ▸ quiet
    · rintro ⟨earlier, last, later, split, mentions, ends⟩
      rcases split_last split with ⟨-, rfl, -⟩ | ⟨rest, rfl, rfl⟩
      · exact absurd mentions.compiles quiet
      · exact ⟨earlier, last, rest, rfl, mentions, fun moment among => ends moment (List.mem_append_left _ among)⟩
  · obtain ⟨earlier, entry, later, rfl, enters, stays, old⟩ := tracks.values other (names ▸ member)
    refine ⟨earlier, entry, later ++ [⟨session, .assigned name real imag⟩], by simp, enters, ?_, ?_⟩
    · intro moment among
      rcases List.mem_append.mp among with among | among
      · exact stays moment among
      · obtain rfl := List.mem_singleton.mp among
        exact fun again => quiet again.1.compiles
    · rw [Variables.value?_set set, last_given_append, Moment.given?, old]
      by_cases same : other = name <;> simp [same]

-- The moments of a preset's values follow the values as they are set.
theorem seed_tracks {session : Session} {moments : List Moment} (tracks : Tracks session moments)
    (seeds : List Seed) : Tracks (session.seed seeds).session (moments ++ session.seedMoments seeds) := by
  induction seeds generalizing session moments with
  | nil => simpa [seed, seedMoments] using tracks
  | cons first rest ih =>
      rw [seed, seedMoments]
      cases done : session.setVariable first.name first.real first.imag with
      | ok changed => simpa using ih (set_variable_tracks tracks done)
      | error error => simpa using tracks

theorem apply_preset_tracks {session : Session} {past : List Moment} (tracks : Tracks session past) (name : String) :
    Tracks (session.applyPreset name).session (past ++ session.moments (.applyPreset name)) := by
  rw [apply_preset_seed, moments]
  cases Preset.find name with
  | error error => simpa using tracks
  | ok preset =>
      dsimp only
      cases done : session.compile preset.initial preset.step with
      | error error => simpa using tracks
      | ok compiled => simpa using seed_tracks (compile_tracks tracks done) preset.seeds

theorem perform_tracks {session : Session} {past : List Moment} (tracks : Tracks session past)
    (operation : Operation) :
    Tracks (session.perform operation).session (past ++ session.moments operation) := by
  cases operation with
  | compile initial step =>
      rw [perform, moments]
      cases done : session.compile initial step with
      | ok changed => exact compile_tracks tracks done
      | error error => simpa [commit] using tracks
  | applyPreset name => exact apply_preset_tracks tracks name
  | setVariable name real imag =>
      rw [perform, moments]
      cases done : session.setVariable name real imag with
      | ok changed => exact set_variable_tracks tracks done
      | error error => simpa [commit] using tracks
  | setPalette palette =>
      have same : (session.setPalette palette).table = session.table := rfl
      simpa [moments, perform] using tracks.of_table same

theorem run_tracks {session : Session} {past : List Moment} (tracks : Tracks session past)
    (operations : List Operation) : Tracks (session.run operations) (past ++ session.history operations) := by
  induction operations generalizing session past with
  | nil => simpa [run, history] using tracks
  | cons operation rest ih =>
      have next := ih (perform_tracks tracks operation)
      rwa [List.append_assoc] at next

theorem table_follows_history (settings : Settings) (operations : List Operation) :
    Tracks ((new settings).run operations) ((new settings).history operations) :=
  run_tracks (new_tracks settings) operations

end EscapeTime.Session

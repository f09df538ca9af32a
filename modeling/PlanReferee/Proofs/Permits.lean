import PlanReferee.Proofs.Json.Forms

/-! How many workers settings may ask for. Every number of 64 bits is accepted, and none is lowered,
while a pool can only be opened with an eighth of them: settings that are accepted may ask for a pool
that cannot be opened. -/

namespace PlanReferee

open Json
open Json.Codec

namespace WorkerPool

/-- The most permits that a pool of workers can be opened with. -/
def permitLimit : Nat := (UInt64.size - 1) >>> 3

def Openable (permits : Nat) : Prop := 1 ≤ permits ∧ permits ≤ permitLimit

end WorkerPool

open WorkerPool

namespace Settings

/-- The text is accepted, and the pool that it asks for can be opened. -/
def Opens (text : String) (available : Nat) : Prop :=
  ∃ settings, decode Settings.codec text = .ok settings ∧ Openable (settings.workers available)

/-- A text that sets the number of workers, and nothing else. -/
def workersText (n : Nat) : String := "\x7b\"max_workers\":" ++ toString n ++ "\x7d"

/-! Texts that set the number of workers. -/

theorem workersText_eq (n : Nat) :
    workersText n = String.ofList (Fields.text [("max_workers", Nat.toDigits 10 n)]) := by
  have same : (workersText n).toList = Fields.text [("max_workers", Nat.toDigits 10 n)] := by
    unfold workersText
    simp [Fields.text, writeObject, writeMember, commas, Nat.toString_eq_repr, Nat.toList_repr]
  rw [← same, String.ofList_toList]

theorem decode_workersText {n : Nat} (within : n < UInt64.size) :
    decode Settings.codec (workersText n) = .ok { maxWorkers := some (UInt64.ofNat n) } := by
  have spelled : fields.Spelled (values { maxWorkers := some (UInt64.ofNat n) })
      [("max_workers", uint64.option.write (some (UInt64.ofNat n)))] :=
    .omitted (.omitted (.written (.omitted (.omitted .done))))
  have written : uint64.option.write (some (UInt64.ofNat n)) = Nat.toDigits 10 n :=
    congrArg (Nat.toDigits 10) (UInt64.toNat_ofNat_of_lt' within)
  rw [written] at spelled
  rw [workersText_eq]
  exact decode_text fields_sound spelled (.refl _)

theorem decode_workersText_beyond {n : Nat} (beyond : UInt64.size ≤ n) :
    ∃ flaw, decode Settings.codec (workersText n) = .error flaw := by
  have ends : EndsNumber ['}'] := (endsValue_cons (by decide) []).number
  obtain ⟨flaw, refused⟩ := @option_uint64_beyond n (Nat.lt_of_lt_of_le (by decide) beyond) _ ends
  have refuses : fields.Refuses "max_workers" (Nat.toDigits 10 n ++ ['}']) flaw :=
    Fields.refuses_later (by decide) <| Fields.refuses_later (by decide) <|
      Fields.refuses_here refused
  rw [workersText_eq]
  exact ⟨flaw, decode_refused (fields_sound.plain "max_workers" (by decide)) refuses⟩

theorem decode_workersText_iff (n : Nat) :
    (∃ settings, decode Settings.codec (workersText n) = .ok settings) ↔ n < UInt64.size := by
  constructor
  · rintro ⟨settings, read⟩
    refine Nat.lt_of_not_le fun large => ?_
    obtain ⟨flaw, refused⟩ := decode_workersText_beyond large
    cases read.symm.trans refused
  · exact fun within => ⟨_, decode_workersText within⟩

/-! Pools. -/

theorem openable_workers_iff (settings : Settings) {available : Nat}
    (few : available ≤ permitLimit) : Openable (settings.workers available) ↔
      ∀ n, settings.maxWorkers = some n → n.toNat ≤ permitLimit := by
  have one : 1 ≤ permitLimit := by decide
  rw [Openable, workers]
  cases settings.maxWorkers with
  | none => simp; omega
  | some n => simp; omega

theorem opens_workersText_iff (n : Nat) {available : Nat} (few : available ≤ permitLimit) :
    Opens (workersText n) available ↔ n ≤ permitLimit := by
  constructor
  · rintro ⟨settings, read, openable⟩
    have within := (decode_workersText_iff n).mp ⟨settings, read⟩
    cases (decode_workersText within).symm.trans read
    have few_asked := (openable_workers_iff _ few).mp openable _ rfl
    rwa [UInt64.toNat_ofNat_of_lt' within] at few_asked
  · intro small
    have within : n < UInt64.size := Nat.lt_of_le_of_lt small (by decide)
    refine ⟨_, decode_workersText within, (openable_workers_iff _ few).mpr ?_⟩
    rintro _ ⟨rfl⟩
    rwa [UInt64.toNat_ofNat_of_lt' within]

/-- Of the texts that are accepted, those that set more workers than there may be permits make a pool
that cannot be opened. All numbers of 64 bits are accepted, and no others. -/
theorem opens_iff_few {available : Nat} (few : available ≤ permitLimit) :
    (∀ text, Opens text available ↔ ∃ settings, decode Settings.codec text = .ok settings ∧
      ∀ n, settings.maxWorkers = some n → n.toNat ≤ permitLimit) ∧
    ∀ n, ((∃ settings, decode Settings.codec (workersText n) = .ok settings) ↔ n < UInt64.size) ∧
      (Opens (workersText n) available ↔ n ≤ permitLimit) := by
  refine ⟨fun text => ?_, fun n => ⟨decode_workersText_iff n, opens_workersText_iff n few⟩⟩
  exact exists_congr fun settings => and_congr_right fun _ => openable_workers_iff settings few

/-- No workers count as one, and the limit itself is within the limit. -/
theorem opens_iff_few_ends : 8 ≤ permitLimit ∧ Opens (workersText 0) 8 ∧
    Opens "\x7b\"max_workers\":2305843009213693951\x7d" 8 ∧ ¬ Opens (workersText UInt64.size) 8 := by
  have few : 8 ≤ permitLimit := by decide
  have ends := fun n => ((opens_iff_few few).2 n).2
  exact ⟨few, (ends 0).mpr (by decide), (ends 2305843009213693951).mpr (by decide),
    mt (ends UInt64.size).mp (by decide)⟩

def crowdedText : String := "\x7b\"max_workers\":2305843009213693952\x7d"

/-- One worker more than there may be permits is accepted. -/
theorem crowded_not_opens : (∃ settings, decode Settings.codec crowdedText = .ok settings) ∧
    8 ≤ permitLimit ∧ ¬ Opens crowdedText 8 := by
  have text : crowdedText = workersText 2305843009213693952 := by decide +kernel
  have read := text ▸ @decode_workersText 2305843009213693952 (by decide)
  refine ⟨⟨_, read⟩, by decide, ?_⟩
  rintro ⟨settings, read', _, few⟩
  cases read.symm.trans read'
  exact absurd few (by decide)

end Settings

end PlanReferee

import Mathlib.Data.List.Perm.Basic
import Mathlib.Algebra.Group.Nat.Defs
import Mathlib.Algebra.Field.Rat
import Ignis.JsonValues

namespace Ignis.SourceSplit
open JsonValues

inductive Failure where
  | valueError (text : Str)
  | raised

inductive Partition where
  | train
  | validation
  | test
  deriving DecidableEq

def Partition.name : Partition → Str
  | .train => codes "train"
  | .validation => codes "validation"
  | .test => codes "test"

variable {Value F : Type}

abbrev Record (Value : Type) := List (Str × Value)

structure Split (Value : Type) where
  train : List (Record Value)
  validation : List (Record Value)
  test : List (Record Value)

def Split.of (split : Split Value) : Partition → List (Record Value)
  | .train => split.train
  | .validation => split.validation
  | .test => split.test

def Split.extend (split : Split Value) (records : List (Record Value)) : Partition → Split Value
  | .train => { split with train := split.train ++ records }
  | .validation => { split with validation := split.validation ++ records }
  | .test => { split with test := split.test ++ records }

def Split.dict (split : Split Value) : List (Str × List (Record Value)) :=
  [(codes "train",split.train),(codes "validation",split.validation),(codes "test",split.test)]

-- What is used of Python: `str`, which may raise, SHA-256 and the division of integers.
structure Python (Value F : Type) where
  str : Value → Option Str
  sha256 : List UInt8 → List UInt8
  divide : ℕ → ℕ → F

-- Lone surrogates have no encoding.
def encode (text : Str) : Option (List UInt8) :=
  if text.all fun c => decide (c < 0xD800 ∨ 0xDFFF < c) then some (text.flatMap fun c => String.utf8EncodeChar (Char.ofNat c))
  else none

def fromBytes (bytes : List UInt8) : ℕ := bytes.foldl (fun value b => 256 * value + b.toNat) 0

def column (str : Value → Option Str) (key : Str) (record : Record Value) : Option Str :=
  match record.lookup key with
  | none => some []
  | some value => str value

def sourceId (str : Value → Option Str) (record : Record Value) : Option Str := (column str (codes "source_id") record).map strip

-- A dict of lists, in the order in which its keys came.
def appendTo (key : Str) (record : Record Value) : List (Str × List (Record Value)) → List (Str × List (Record Value))
  | [] => [(key,[record])]
  | (old,held) :: rest => if old = key then (old,held ++ [record]) :: rest else (old,held) :: appendTo key record rest

def group (str : Value → Option Str) (grouped : List (Str × List (Record Value))) (record : Record Value) :
    Except Failure (List (Str × List (Record Value))) :=
  match sourceId str record with
  | none => .error .raised
  | some sourceId =>
    if sourceId = [] then .error (.valueError (codes "every record requires a source_id"))
    else .ok (appendTo sourceId record grouped)

-- The keys differ, so the lists are never compared.
def sorted (grouped : List (Str × List (Record Value))) : List (Str × List (Record Value)) :=
  grouped.mergeSort fun a b => !(b.1.lex a.1 fun c d => decide (c < d))

section Splitting
variable [LT F] [LE F] [Add F] [Zero F] [One F] [DecidableLT F] [DecidableLE F] (python : Python Value F) (seed : Str)
  (train validation : F)

def assignSource (sourceId : Str) : Option Partition :=
  (encode (seed ++ codes ":" ++ sourceId)).map fun bytes =>
    let value := python.divide (fromBytes ((python.sha256 bytes).take 8)) (2 ^ 64 - 1)
    if value < train then .train
    else if value < train + validation then .validation
    else .test

def assign (result : Split Value) (entry : Str × List (Record Value)) : Except Failure (Split Value) :=
  match assignSource python seed train validation entry.1 with
  | none => .error .raised
  | some partition => .ok (result.extend entry.2 partition)

def splitRecords (records : List (Record Value)) : Except Failure (Split Value) :=
  if ¬ (0 < train ∧ train < 1) ∨ ¬ (0 ≤ validation ∧ validation < 1) ∨ 1 ≤ train + validation then
    .error (.valueError (codes "split ratios must leave a non-empty test fraction"))
  else do
    let grouped ← records.foldlM (group python.str) []
    (sorted grouped).foldlM (assign python seed train validation) ⟨[],[],[]⟩

end Splitting

-- What `validate_split` has seen: the partition of each source, and the paths.
structure Seen where
  sources : List (Str × Str)
  paths : List Str

-- `setdefault` stores a source's first partition, and gives the one that is stored.
def visit (str : Value → Option Str) (partition : Str) (seen : Seen) (record : Record Value) : Except Failure Seen :=
  match column str (codes "source_id") record,column str (codes "path") record with
  | some source,some path =>
    if source = [] ∨ path = [] then .error (.valueError (codes "every record requires source_id and path"))
    else
      let (previous,sources) := match seen.sources.lookup source with
        | some previous => (previous,seen.sources)
        | none => (partition,(source,partition) :: seen.sources)
      if previous ≠ partition then
        .error (.valueError (codes "source leakage: " ++ source ++ codes " appears in " ++ previous ++ codes " and " ++ partition))
      else if path ∈ seen.paths then .error (.valueError (codes "duplicate sample path: " ++ path))
      else .ok ⟨sources,path :: seen.paths⟩
  | _,_ => .error .raised

def visitPartition (str : Value → Option Str) (seen : Seen) (entry : Str × List (Record Value)) : Except Failure Seen :=
  entry.2.foldlM (visit str entry.1) seen

def required : List Str := [codes "train",codes "validation",codes "test"]

def validateSplit (str : Value → Option Str) (split : List (Str × List (Record Value))) : Except Failure (List (Str × ℕ)) :=
  if ¬ ((split.map Prod.fst).all (· ∈ required) ∧ required.all (· ∈ split.map Prod.fst)) then
    .error (.valueError (codes "split must contain train, validation, and test"))
  else do
    let _ ← split.foldlM (visitPartition str) ⟨[],[]⟩
    return split.map fun entry => (entry.1,entry.2.length)

variable {str : Value → Option Str} {record r : Record Value} {key : Str} {records before : List (Record Value)}
  {grouped grouped' : List (Str × List (Record Value))}

theorem bind_ok {α β : Type} {x : Except Failure α} {f : α → Except Failure β} {b : β} (ok : (x >>= f) = .ok b) :
    ∃ a, x = .ok a ∧ f a = .ok b := by
  cases x with
  | error failure => cases ok
  | ok a => exact ⟨a,rfl,ok⟩

def Identified (str : Value → Option Str) (record : Record Value) : Prop := ∃ source, sourceId str record = some source ∧ source ≠ []

structure Grouped (str : Value → Option Str) (before : List (Record Value)) (grouped : List (Str × List (Record Value))) : Prop where
  filled : ∀ entry ∈ grouped, entry.2 ≠ []
  named : ∀ entry ∈ grouped, ∀ r ∈ entry.2, sourceId str r = some entry.1
  whole : (grouped.flatMap Prod.snd).Perm before

theorem grouped_nil : Grouped str [] [] :=
  ⟨fun _ none => (List.not_mem_nil none).elim,fun _ none => (List.not_mem_nil none).elim,.refl _⟩

theorem appendTo_perm (key : Str) (record : Record Value) (grouped : List (Str × List (Record Value))) :
    ((appendTo key record grouped).flatMap Prod.snd).Perm (grouped.flatMap Prod.snd ++ [record]) := by
  induction grouped with
  | nil => exact .refl _
  | cons entry rest ih =>
    rw [appendTo]
    split
    · rw [List.flatMap_cons,List.flatMap_cons,List.append_assoc,List.append_assoc]
      exact List.perm_append_comm.append_left entry.2
    · rw [List.flatMap_cons,List.flatMap_cons,List.append_assoc]
      exact ih.append_left entry.2

theorem appendTo_mem {entry : Str × List (Record Value)} (member : entry ∈ appendTo key record grouped) :
    entry ∈ grouped ∨ (entry.1 = key ∧ ∃ held, entry.2 = held ++ [record] ∧ (held = [] ∨ (key,held) ∈ grouped)) := by
  induction grouped with
  | nil =>
    rw [List.mem_singleton.mp member]
    exact .inr ⟨rfl,[],rfl,.inl rfl⟩
  | cons old rest ih =>
    rw [appendTo] at member
    split at member
    · rename_i same
      rcases List.mem_cons.mp member with rfl | later
      · exact .inr ⟨same,old.2,rfl,.inr (List.mem_cons.mpr (.inl (Prod.ext same.symm rfl)))⟩
      · exact .inl (List.mem_cons_of_mem _ later)
    · rcases List.mem_cons.mp member with rfl | later
      · exact .inl List.mem_cons_self
      · rcases ih later with kept | ⟨same,held,grown,origin⟩
        · exact .inl (List.mem_cons_of_mem _ kept)
        · exact .inr ⟨same,held,grown,origin.imp_right (List.mem_cons_of_mem _)⟩

theorem group_identified : (∃ grouped', group str grouped record = .ok grouped') ↔ Identified str record := by
  unfold group Identified
  cases known : sourceId str record with
  | none => simp
  | some source =>
    by_cases empty : source = []
    · simp [empty]
    · simp [empty]

theorem group_grouped (done : Grouped str before grouped) (accepted : group str grouped record = .ok grouped') :
    Grouped str (before ++ [record]) grouped' := by
  unfold group at accepted
  split at accepted
  · cases accepted
  · rename_i source known
    split at accepted
    · cases accepted
    · cases accepted
      refine ⟨?_,?_,(appendTo_perm source record grouped).trans (done.whole.append_right [record])⟩
      · intro entry member
        rcases appendTo_mem member with kept | ⟨_,held,grown,_⟩
        · exact done.filled entry kept
        · rw [grown]
          exact List.append_ne_nil_of_right_ne_nil held (List.cons_ne_nil record [])
      · intro entry member r inside
        rcases appendTo_mem member with kept | ⟨same,held,grown,was⟩
        · exact done.named entry kept r inside
        · rw [same]
          rw [grown] at inside
          rcases List.mem_append.mp inside with old | new
          · rcases was with rfl | was
            · cases old
            · exact done.named (source,held) was r old
          · rw [List.mem_singleton.mp new]
            exact known

theorem groups_grouped (records : List (Record Value)) : ∀ (before : List (Record Value)) (grouped : List (Str × List (Record Value))),
    Grouped str before grouped → records.foldlM (group str) grouped = .ok grouped' →
    Grouped str (before ++ records) grouped' ∧ ∀ r ∈ records, Identified str r := by
  induction records with
  | nil =>
    intro before grouped done accepted
    cases accepted
    rw [List.append_nil]
    exact ⟨done,fun r none => by cases none⟩
  | cons record records ih =>
    intro before grouped done accepted
    rw [List.foldlM_cons] at accepted
    obtain ⟨next,one,rest⟩ := bind_ok accepted
    obtain ⟨whole,identified⟩ := ih (before ++ [record]) next (group_grouped done one) rest
    rw [List.append_assoc] at whole
    refine ⟨whole,?_⟩
    intro r member
    rcases List.mem_cons.mp member with rfl | later
    · exact group_identified.mp ⟨next,one⟩
    · exact identified r later

theorem groups_total (records : List (Record Value)) (identified : ∀ r ∈ records, Identified str r) :
    ∀ grouped, ∃ grouped', records.foldlM (group str) grouped = .ok grouped' := by
  induction records with
  | nil => exact fun grouped => ⟨grouped,rfl⟩
  | cons record records ih =>
    intro grouped
    obtain ⟨next,one⟩ := group_identified.mpr (identified record List.mem_cons_self)
    obtain ⟨last,rest⟩ := ih (fun r later => identified r (List.mem_cons_of_mem _ later)) next
    refine ⟨last,?_⟩
    rw [List.foldlM_cons,one]
    exact rest

section Splitting
variable [LT F] [Add F] [DecidableLT F] {python : Python Value F} {seed : Str} {train validation : F}
  {result result' : Split Value} {partition : Partition}

def home (python : Python Value F) (seed : Str) (train validation : F) (record : Record Value) : Option Partition :=
  (sourceId python.str record).bind (assignSource python seed train validation)

theorem extend_of (split : Split Value) (records : List (Record Value)) (partition other : Partition) :
    (split.extend records partition).of other = split.of other ++ if partition = other then records else [] := by
  cases partition <;> cases other <;> simp [Split.extend,Split.of]

theorem assigns_ok (entries : List (Str × List (Record Value))) : ∀ result,
    entries.foldlM (assign python seed train validation) result = .ok result' →
    (∀ entry ∈ entries, ∃ partition, assignSource python seed train validation entry.1 = some partition) ∧
    ∀ partition, result'.of partition = result.of partition ++
      (entries.flatMap fun entry => if assignSource python seed train validation entry.1 = some partition then entry.2 else []) := by
  induction entries with
  | nil =>
    intro result accepted
    cases accepted
    exact ⟨fun entry none => (List.not_mem_nil none).elim,fun partition => (List.append_nil _).symm⟩
  | cons entry entries ih =>
    intro result accepted
    rw [List.foldlM_cons] at accepted
    obtain ⟨next,one,rest⟩ := bind_ok accepted
    obtain ⟨assigned,parts⟩ := ih next rest
    unfold assign at one
    split at one
    · cases one
    · rename_i partition known
      cases one
      refine ⟨?_,?_⟩
      · intro e member
        rcases List.mem_cons.mp member with rfl | later
        · exact ⟨partition,known⟩
        · exact assigned e later
      · intro other
        rw [parts other,extend_of,List.flatMap_cons,known,List.append_assoc]
        simp only [Option.some.injEq]

theorem assigns_total (entries : List (Str × List (Record Value)))
    (assigned : ∀ entry ∈ entries, ∃ partition, assignSource python seed train validation entry.1 = some partition) :
    ∀ result, ∃ result', entries.foldlM (assign python seed train validation) result = .ok result' := by
  induction entries with
  | nil => exact fun result => ⟨result,rfl⟩
  | cons entry entries ih =>
    intro result
    obtain ⟨partition,known⟩ := assigned entry List.mem_cons_self
    obtain ⟨last,rest⟩ := ih (fun e later => assigned e (List.mem_cons_of_mem _ later)) (result.extend entry.2 partition)
    refine ⟨last,?_⟩
    rw [List.foldlM_cons,assign,known]
    exact rest

theorem sorted_perm (grouped : List (Str × List (Record Value))) : (sorted grouped).Perm grouped := List.mergeSort_perm _ _

theorem grouped_home (done : Grouped python.str records grouped) (partition : Partition) :
    (grouped.flatMap fun entry => if assignSource python seed train validation entry.1 = some partition then entry.2 else []).Perm
      (records.filter fun r => home python seed train validation r = some partition) := by
  have each : ∀ entry ∈ grouped, (if assignSource python seed train validation entry.1 = some partition then entry.2 else []) =
      entry.2.filter fun r => home python seed train validation r = some partition := by
    intro entry member
    have same : ∀ r ∈ entry.2, home python seed train validation r = assignSource python seed train validation entry.1 := by
      intro r inside
      rw [home,done.named entry member r inside,Option.bind_some]
    split
    · rename_i here
      refine (List.filter_eq_self.mpr ?_).symm
      intro r inside
      rw [same r inside]
      exact decide_eq_true here
    · rename_i elsewhere
      refine (List.filter_eq_nil_iff.mpr ?_).symm
      intro r inside
      rw [same r inside]
      simpa using elsewhere
  rw [List.flatMap_congr each,← List.filter_flatMap]
  exact done.whole.filter _

structure Splits (python : Python Value F) (seed : Str) (train validation : F) (records : List (Record Value))
    (result : Split Value) : Prop where
  identified : ∀ r ∈ records, Identified python.str r
  housed : ∀ r ∈ records, ∃ partition, home python seed train validation r = some partition
  parts : ∀ partition, (result.of partition).Perm (records.filter fun r => home python seed train validation r = some partition)

variable [LE F] [Zero F] [One F] [DecidableLE F]

theorem splitRecords_splits (accepted : splitRecords python seed train validation records = .ok result) :
    Splits python seed train validation records result := by
  unfold splitRecords at accepted
  split at accepted
  · cases accepted
  · obtain ⟨grouped,first,second⟩ := bind_ok accepted
    obtain ⟨done,identified⟩ := groups_grouped records [] [] grouped_nil first
    obtain ⟨assigned,parts⟩ := assigns_ok (sorted grouped) ⟨[],[],[]⟩ second
    rw [List.nil_append] at done
    refine ⟨identified,?_,?_⟩
    · intro r member
      obtain ⟨entry,known,inside⟩ := List.mem_flatMap.mp (done.whole.mem_iff.mpr member)
      obtain ⟨partition,here⟩ := assigned entry ((sorted_perm grouped).mem_iff.mpr known)
      refine ⟨partition,?_⟩
      rw [home,done.named entry known r inside,Option.bind_some]
      exact here
    · intro partition
      have empty : (⟨[],[],[]⟩ : Split Value).of partition = [] := by cases partition <;> rfl
      rw [parts partition,empty,List.nil_append]
      exact ((sorted_perm grouped).flatMap_right _).trans (grouped_home done partition)

theorem splitRecords_total {records' : List (Record Value)} (accepted : splitRecords python seed train validation records = .ok result)
    (permuted : records'.Perm records) : ∃ result', splitRecords python seed train validation records' = .ok result' := by
  have splits := splitRecords_splits accepted
  unfold splitRecords at accepted ⊢
  split at accepted
  · cases accepted
  · rename_i ratios
    rw [if_neg ratios]
    obtain ⟨grouped,first⟩ := groups_total records' (fun r member => splits.identified r (permuted.mem_iff.mp member)) []
    obtain ⟨done,_⟩ := groups_grouped records' [] [] grouped_nil first
    rw [List.nil_append] at done
    have assigned : ∀ entry ∈ sorted grouped, ∃ partition, assignSource python seed train validation entry.1 = some partition := by
      intro entry member
      have known := (sorted_perm grouped).mem_iff.mp member
      obtain ⟨r,inside⟩ := List.exists_mem_of_ne_nil entry.2 (done.filled entry known)
      have given : r ∈ records' := done.whole.mem_iff.mp (List.mem_flatMap.mpr ⟨entry,known,inside⟩)
      obtain ⟨partition,here⟩ := splits.housed r (permuted.mem_iff.mp given)
      refine ⟨partition,?_⟩
      rw [home,done.named entry known r inside] at here
      exact here
    obtain ⟨result',second⟩ := assigns_total (sorted grouped) assigned ⟨[],[],[]⟩
    refine ⟨result',?_⟩
    rw [first]
    exact second

omit [LE F] [Zero F] [One F] [DecidableLE F]

theorem homes_perm (records : List (Record Value)) (housed : ∀ r ∈ records, ∃ partition, home python seed train validation r = some partition) :
    (records.filter (fun r => home python seed train validation r = some .train) ++
      records.filter (fun r => home python seed train validation r = some .validation) ++
      records.filter fun r => home python seed train validation r = some .test).Perm records := by
  induction records with
  | nil => exact .refl _
  | cons record records ih =>
    have rest := ih fun r later => housed r (List.mem_cons_of_mem _ later)
    obtain ⟨partition,here⟩ := housed record List.mem_cons_self
    rw [List.filter_cons,List.filter_cons,List.filter_cons,here]
    cases partition with
    | train => exact rest.cons record
    | validation =>
      rw [List.append_assoc] at rest ⊢
      exact List.perm_middle.trans (rest.cons record)
    | test => exact List.perm_middle.trans (rest.cons record)

theorem Splits.homes {records : List (Record Value)} (splits : Splits python seed train validation records result)
    (member : r ∈ result.of partition) : r ∈ records ∧ home python seed train validation r = some partition := by
  have filtered := List.mem_filter.mp ((splits.parts partition).mem_iff.mp member)
  exact ⟨filtered.1,of_decide_eq_true filtered.2⟩

theorem Splits.perm {records : List (Record Value)} (splits : Splits python seed train validation records result) :
    (result.train ++ result.validation ++ result.test).Perm records :=
  (((splits.parts .train).append (splits.parts .validation)).append (splits.parts .test)).trans (homes_perm records splits.housed)

end Splitting

section Checking
variable {partition : Str} {seen : Seen} {done pairs : List (Str × Record Value)} {pair : Str × Record Value} {source path : Str}

structure Noted (str : Value → Option Str) (done : List (Str × Record Value)) (seen : Seen) : Prop where
  sources : ∀ source partition, seen.sources.lookup source = some partition →
    ∃ r, (partition,r) ∈ done ∧ column str (codes "source_id") r = some source
  paths : ∀ path ∈ seen.paths, ∃ pair ∈ done, column str (codes "path") pair.2 = some path

theorem visit_noted (noted : Noted str done seen) (named : column str (codes "source_id") pair.2 = some source) (filled : source ≠ [])
    (located : column str (codes "path") pair.2 = some path) (stored : path ≠ [])
    (alone : ∀ other ∈ done, column str (codes "source_id") other.2 = some source → other.1 = pair.1)
    (fresh : ∀ other ∈ done, column str (codes "path") other.2 ≠ some path) :
    ∃ seen', visit str pair.1 seen pair.2 = .ok seen' ∧ Noted str (done ++ [pair]) seen' := by
  have unseen : path ∉ seen.paths := by
    intro member
    obtain ⟨other,old,same⟩ := noted.paths path member
    exact fresh other old same
  have paths : ∀ other ∈ path :: seen.paths, ∃ pair' ∈ done ++ [pair], column str (codes "path") pair'.2 = some other := by
    intro other member
    rcases List.mem_cons.mp member with rfl | old
    · exact ⟨pair,List.mem_append_right _ (List.mem_singleton.mpr rfl),located⟩
    · obtain ⟨pair',inside,same⟩ := noted.paths other old
      exact ⟨pair',List.mem_append_left _ inside,same⟩
  unfold visit
  simp only [named,located,filled,stored,or_self,if_false]
  cases known : seen.sources.lookup source with
  | some previous =>
    obtain ⟨r,old,same⟩ := noted.sources source previous known
    have here : previous = pair.1 := alone (previous,r) old same
    refine ⟨⟨seen.sources,path :: seen.paths⟩,?_,?_,paths⟩
    · simp only [here,ne_eq,not_true_eq_false,if_false,unseen]
    · intro source' partition' stored'
      obtain ⟨r',old',same'⟩ := noted.sources source' partition' stored'
      exact ⟨r',List.mem_append_left _ old',same'⟩
  | none =>
    refine ⟨⟨(source,pair.1) :: seen.sources,path :: seen.paths⟩,?_,?_,paths⟩
    · simp only [ne_eq,not_true_eq_false,if_false,unseen]
    · intro source' partition' stored'
      rw [List.lookup_cons] at stored'
      by_cases same : source' = source
      · subst same
        rw [beq_self_eq_true] at stored'
        cases stored'
        exact ⟨pair.2,List.mem_append_right _ (List.mem_singleton.mpr rfl),named⟩
      · rw [beq_false_of_ne same] at stored'
        obtain ⟨r',old',same'⟩ := noted.sources source' partition' stored'
        exact ⟨r',List.mem_append_left _ old',same'⟩

def Complete (str : Value → Option Str) (record : Record Value) : Prop :=
  (∃ source, column str (codes "source_id") record = some source ∧ source ≠ []) ∧
    ∃ path, column str (codes "path") record = some path ∧ path ≠ []

theorem visits_total (pairs : List (Str × Record Value)) : ∀ (done : List (Str × Record Value)) (seen : Seen),
    (∀ pair ∈ pairs, Complete str pair.2) →
    (∀ pair ∈ done ++ pairs, ∀ other ∈ done ++ pairs,
      column str (codes "source_id") pair.2 = column str (codes "source_id") other.2 → pair.1 = other.1) →
    ((done ++ pairs).map fun pair => column str (codes "path") pair.2).Nodup → Noted str done seen →
    ∃ seen', pairs.foldlM (fun seen pair => visit str pair.1 seen pair.2) seen = .ok seen' := by
  induction pairs with
  | nil => exact fun _ seen _ _ _ _ => ⟨seen,rfl⟩
  | cons pair pairs ih =>
    intro done seen complete homes distinct noted
    obtain ⟨⟨source,named,filled⟩,path,located,stored⟩ := complete pair List.mem_cons_self
    have here : pair ∈ done ++ pair :: pairs := List.mem_append_right _ List.mem_cons_self
    have alone : ∀ other ∈ done, column str (codes "source_id") other.2 = some source → other.1 = pair.1 := fun other old same =>
      homes other (List.mem_append_left _ old) pair here (same.trans named.symm)
    have fresh : ∀ other ∈ done, column str (codes "path") other.2 ≠ some path := by
      intro other old same
      rw [List.map_append,List.nodup_append] at distinct
      exact distinct.2.2 _ (List.mem_map.mpr ⟨other,old,rfl⟩) _ (List.mem_map.mpr ⟨pair,List.mem_cons_self,rfl⟩)
        (same.trans located.symm)
    obtain ⟨next,one,noted'⟩ := visit_noted noted named filled located stored alone fresh
    have layout : done ++ pair :: pairs = (done ++ [pair]) ++ pairs := by rw [List.append_assoc,List.singleton_append]
    rw [layout] at homes distinct
    obtain ⟨last,rest⟩ := ih (done ++ [pair]) next (fun p later => complete p (List.mem_cons_of_mem _ later)) homes distinct noted'
    refine ⟨last,?_⟩
    rw [List.foldlM_cons,one]
    exact rest

def paired (split : List (Str × List (Record Value))) : List (Str × Record Value) :=
  split.flatMap fun entry => entry.2.map fun record => (entry.1,record)

theorem visits_paired (split : List (Str × List (Record Value))) : ∀ seen, split.foldlM (visitPartition str) seen =
    (paired split).foldlM (fun seen pair => visit str pair.1 seen pair.2) seen := by
  induction split with
  | nil => exact fun _ => rfl
  | cons entry split ih =>
    intro seen
    rw [List.foldlM_cons,paired,List.flatMap_cons,List.foldlM_append,List.foldlM_map]
    exact congrArg _ (funext ih)

end Checking

section Results
variable [LT F] [Add F] [DecidableLT F] {python : Python Value F} {seed : Str} {train validation : F} {result : Split Value}

theorem paired_dict (result : Split Value) : (paired result.dict).map Prod.snd = result.train ++ result.validation ++ result.test := by
  simp only [paired,Split.dict,List.flatMap_cons,List.flatMap_nil,List.map_append,List.map_map,Function.comp_def,List.map_id',
    List.append_nil,List.append_assoc]

theorem paired_of {pair : Str × Record Value} (member : pair ∈ paired result.dict) :
    ∃ partition : Partition, pair.1 = partition.name ∧ pair.2 ∈ result.of partition := by
  obtain ⟨entry,known,inside⟩ := List.mem_flatMap.mp member
  obtain ⟨r,held,rfl⟩ := List.mem_map.mp inside
  simp only [Split.dict,List.mem_cons,List.not_mem_nil,or_false] at known
  rcases known with rfl | rfl | rfl
  · exact ⟨.train,rfl,held⟩
  · exact ⟨.validation,rfl,held⟩
  · exact ⟨.test,rfl,held⟩

theorem identified_complete (identified : Identified str record)
    (located : ∃ path, column str (codes "path") record = some path ∧ path ≠ []) : Complete str record := by
  obtain ⟨stripped,known,filled⟩ := identified
  obtain ⟨source,named,strips⟩ := Option.map_eq_some_iff.mp known
  refine ⟨⟨source,named,?_⟩,located⟩
  rintro rfl
  exact filled strips.symm

theorem Splits.validates (splits : Splits python seed train validation records result)
    (located : ∀ r ∈ records, ∃ path, column python.str (codes "path") r = some path ∧ path ≠ [])
    (distinct : (records.map (column python.str (codes "path"))).Nodup) :
    validateSplit python.str result.dict = .ok (result.dict.map fun entry => (entry.1,entry.2.length)) := by
  have complete : ∀ pair ∈ paired result.dict, Complete python.str pair.2 := by
    intro pair member
    obtain ⟨partition,_,inside⟩ := paired_of member
    have given := (splits.homes inside).1
    exact identified_complete (splits.identified pair.2 given) (located pair.2 given)
  have homes : ∀ pair ∈ paired result.dict, ∀ other ∈ paired result.dict,
      column python.str (codes "source_id") pair.2 = column python.str (codes "source_id") other.2 → pair.1 = other.1 := by
    intro pair member other member' same
    obtain ⟨partition,named,inside⟩ := paired_of member
    obtain ⟨partition',named',inside'⟩ := paired_of member'
    have here := (splits.homes inside).2
    have there := (splits.homes inside').2
    rw [home,sourceId] at here there
    rw [same,there] at here
    rw [named,named',Option.some.inj here]
  have paths : ((paired result.dict).map fun pair => column python.str (codes "path") pair.2).Nodup := by
    have split : ((paired result.dict).map fun pair => column python.str (codes "path") pair.2) =
        (result.train ++ result.validation ++ result.test).map (column python.str (codes "path")) := by
      rw [← paired_dict,List.map_map]
      rfl
    rw [split]
    exact (splits.perm.map _).nodup_iff.mpr distinct
  obtain ⟨seen,checked⟩ := visits_total (paired result.dict) [] ⟨[],[]⟩ complete homes paths
    ⟨fun _ _ none => (Option.some_ne_none _ none.symm).elim,fun _ none => (List.not_mem_nil none).elim⟩
  have names : (result.dict.map Prod.fst).all (· ∈ required) ∧ required.all (· ∈ result.dict.map Prod.fst) := by
    have keys : result.dict.map Prod.fst = required := rfl
    rw [keys]
    decide
  unfold validateSplit
  rw [if_neg (not_not.mpr names),visits_paired,checked]
  rfl

variable [LE F] [Zero F] [One F] [DecidableLE F]

theorem split_keeps (python : Python Value F) (seed : Str) (train validation : F) (records : List (Record Value)) (result : Split Value)
    (accepted : splitRecords python seed train validation records = .ok result) :
    (result.train ++ result.validation ++ result.test).Perm records ∧
    (∀ (partition other : Partition) (r r' : Record Value), r ∈ result.of partition → r' ∈ result.of other →
      sourceId python.str r = sourceId python.str r' → partition = other) ∧
    (∀ records' : List (Record Value), records'.Perm records → ∃ result', splitRecords python seed train validation records' = .ok result' ∧
      ∀ partition, (result'.of partition).Perm (result.of partition)) ∧
    ((∀ r ∈ records, ∃ path, column python.str (codes "path") r = some path ∧ path ≠ []) →
      (records.map (column python.str (codes "path"))).Nodup →
      validateSplit python.str result.dict =
        .ok [(codes "train",result.train.length),(codes "validation",result.validation.length),(codes "test",result.test.length)]) := by
  have splits := splitRecords_splits accepted
  refine ⟨splits.perm,?_,?_,splits.validates⟩
  · intro partition other r r' inside inside' same
    have here := (splits.homes inside).2
    have there := (splits.homes inside').2
    rw [home] at here there
    rw [same,there] at here
    exact (Option.some.inj here).symm
  · intro records' permuted
    obtain ⟨result',again⟩ := splitRecords_total accepted permuted
    refine ⟨result',again,?_⟩
    intro partition
    have parts := (splitRecords_splits again).parts partition
    exact parts.trans ((permuted.filter _).trans (splits.parts partition).symm)

end Results

def digests : List (List UInt8 × List UInt8) := [
  ([115,58,97],[212,49,93,131,169,93,250,235,121,236,201,212,245,178,214,24,4,232,138,170,172,180,29,133,89,119,185,147,40,100,53,196]),
  ([115,58,99],[151,169,169,4,120,222,19,107,165,60,150,22,44,146,231,19,156,148,172,198,115,164,1,152,207,242,211,38,252,184,90,142]),
  ([115,58,119],[218,176,65,146,134,65,189,13,27,87,205,205,206,126,137,165,253,47,114,100,115,90,33,245,43,20,6,153,73,251,196,53])]

def texts : Python Str ℚ := ⟨some,fun bytes => (digests.lookup bytes).getD [],fun n d => n / d⟩
def frame (source path : String) : Record Str := [(codes "source_id",codes source),(codes "path",codes path)]
def frames : List (Record Str) := [frame " a" "1.jpg",frame "c" "2.jpg",frame "a" "3.jpg",frame "w" "4.jpg",frame "c " "5.jpg"]

theorem frames_split : ∃ result result', splitRecords texts (codes "s") (7/10) (15/100) frames = .ok result ∧
    splitRecords texts (codes "s") (7/10) (15/100) frames.reverse = .ok result' ∧
    (result.train ++ result.validation ++ result.test).Perm frames ∧
    (∀ partition, (result'.of partition).Perm (result.of partition)) ∧
    validateSplit texts.str result.dict = .ok [(codes "train",2),(codes "validation",2),(codes "test",1)] := by
  have accepted : splitRecords texts (codes "s") (7/10) (15/100) frames =
      .ok ⟨[frame "c" "2.jpg",frame "c " "5.jpg"],[frame " a" "1.jpg",frame "a" "3.jpg"],[frame "w" "4.jpg"]⟩ := by
    have grouped : frames.foldlM (group texts.str) [] = .ok [(codes "a",[frame " a" "1.jpg",frame "a" "3.jpg"]),
        (codes "c",[frame "c" "2.jpg",frame "c " "5.jpg"]),(codes "w",[frame "w" "4.jpg"])] := by rfl
    have first : assignSource texts (codes "s") (7/10) (15/100) (codes "a") = some .validation := by decide +kernel
    have second : assignSource texts (codes "s") (7/10) (15/100) (codes "c") = some .train := by decide +kernel
    have third : assignSource texts (codes "s") (7/10) (15/100) (codes "w") = some .test := by decide +kernel
    unfold splitRecords
    rw [if_neg (by decide +kernel),grouped]
    show (sorted _).foldlM (assign texts (codes "s") (7/10) (15/100)) ⟨[],[],[]⟩ = _
    rw [sorted,List.mergeSort_of_pairwise (by decide +kernel)]
    simp only [List.foldlM_cons,List.foldlM_nil,assign,first,second,third]
    rfl
  obtain ⟨whole,_,permuted,validates⟩ := split_keeps texts (codes "s") (7/10) (15/100) frames _ accepted
  obtain ⟨result',again,parts⟩ := permuted frames.reverse (List.reverse_perm frames)
  refine ⟨_,result',accepted,again,whole,parts,validates ?_ (by decide +kernel)⟩
  intro r member
  obtain ⟨path,here⟩ : ∃ path, r.lookup (codes "path") = some path ∧ path ≠ [] := by
    revert r
    decide +kernel
  exact ⟨path,by rw [column,here.1]; rfl,here.2⟩

end Ignis.SourceSplit

import Ignis.Framing

-- What is to be read off the bytes at hand, apart from how a decoder keeps them. Any bytes
-- may come in, in pieces of any size.
namespace Framing
variable {σ α β ε : Type*}

inductive Scan (α β ε : Type*) where
  | wait
  | fail (error : ε)
  | take (item : α) (rest : List β)

inductive Ending (β ε : Type*) where
  | waits (rest : List β)
  | fails (error : ε)

-- Item after item, until bytes are missing or are no item.
inductive Scans (scan : List β → Scan α β ε) : List β → List α → Ending β ε → Prop where
  | waits {bytes : List β} (waits : scan bytes = .wait) : Scans scan bytes [] (.waits bytes)
  | fails {bytes : List β} {error : ε} (fails : scan bytes = .fail error) : Scans scan bytes [] (.fails error)
  | takes {bytes rest : List β} {item : α} {items : List α} {ending : Ending β ε} (takes : scan bytes = .take item rest)
      (more : Scans scan rest items ending) : Scans scan bytes (item :: items) ending

-- The same scan seen by someone with other items and other words for errors.
def Scan.map {γ δ : Type*} (f : α → γ) (g : ε → δ) : Scan α β ε → Scan γ β δ
  | .wait => .wait
  | .fail error => .fail (g error)
  | .take item rest => .take (f item) rest

def Ending.map {δ : Type*} (g : ε → δ) : Ending β ε → Ending β δ
  | .waits rest => .waits rest
  | .fails error => .fails (g error)

def Shrinks (scan : List β → Scan α β ε) : Prop :=
  ∀ bytes item rest, scan bytes = .take item rest → rest.length < bytes.length

structure Online (scan : List β → Scan α β ε) : Prop where
  empty : scan [] = .wait
  shrinks : Shrinks scan
  fail_append : ∀ bytes error more, scan bytes = .fail error → scan (bytes ++ more) = .fail error
  take_append : ∀ bytes item rest more, scan bytes = .take item rest → scan (bytes ++ more) = .take item (rest ++ more)

variable {scan : List β → Scan α β ε} {bytes rest more : List β} {items later : List α} {ending other : Ending β ε} {error : ε}

theorem Scans.unique {others : List α} (one : Scans scan bytes items ending) (two : Scans scan bytes others other) :
    items = others ∧ ending = other := by
  induction one generalizing others with
  | waits waits =>
    cases two with
    | waits => exact ⟨rfl,rfl⟩
    | fails fails => rw [waits] at fails; cases fails
    | takes takes => rw [waits] at takes; cases takes
  | fails fails =>
    cases two with
    | waits waits => rw [fails] at waits; cases waits
    | fails same => rw [fails] at same; cases same; exact ⟨rfl,rfl⟩
    | takes takes => rw [fails] at takes; cases takes
  | takes takes _ ih =>
    cases two with
    | waits waits => rw [takes] at waits; cases waits
    | fails fails => rw [takes] at fails; cases fails
    | takes same more =>
      rw [takes] at same
      cases same
      obtain ⟨rfl,rfl⟩ := ih more
      exact ⟨rfl,rfl⟩

theorem Scans.total (shrinks : Shrinks scan) (bytes : List β) : ∃ items ending, Scans scan bytes items ending := by
  induction size : bytes.length using Nat.strong_induction_on generalizing bytes with
  | _ n ih =>
    cases verdict : scan bytes with
    | wait => exact ⟨[],_,.waits verdict⟩
    | fail error => exact ⟨[],_,.fails verdict⟩
    | take item rest =>
      obtain ⟨items,ending,scans⟩ := ih rest.length (size ▸ shrinks bytes item rest verdict) rest rfl
      exact ⟨item :: items,ending,.takes verdict scans⟩

theorem Scans.waiting (scans : Scans scan bytes items (.waits rest)) : scan rest = .wait := by
  generalize same : Ending.waits rest = ending at scans
  induction scans with
  | waits waits => cases same; exact waits
  | fails => cases same
  | takes _ _ ih => exact ih same

theorem Scans.append (online : Online scan) (scans : Scans scan bytes items (.waits rest))
    (goes : Scans scan (rest ++ more) later ending) : Scans scan (bytes ++ more) (items ++ later) ending := by
  generalize same : Ending.waits rest = first at scans
  induction scans with
  | waits => cases same; exact goes
  | fails => cases same
  | takes takes _ ih => exact .takes (online.take_append _ _ _ _ takes) (ih same)

theorem Scans.append_fails (online : Online scan) (scans : Scans scan bytes items (.fails error)) :
    Scans scan (bytes ++ more) items (.fails error) := by
  generalize same : Ending.fails error = ending at scans ⊢
  induction scans with
  | waits => cases same
  | fails fails => cases same; exact .fails (online.fail_append _ _ _ fails)
  | takes takes _ ih => exact .takes (online.take_append _ _ _ _ takes) (ih same)

theorem Scans.behind (online : Online scan) (before : Scans scan bytes items (.waits rest)) {all : List α}
    (scans : Scans scan (bytes ++ more) all ending) : ∃ later, all = items ++ later ∧ Scans scan (rest ++ more) later ending := by
  obtain ⟨later,other,behind⟩ := Scans.total online.shrinks (rest ++ more)
  obtain ⟨rfl,rfl⟩ := scans.unique (before.append online behind)
  exact ⟨later,rfl,behind⟩

theorem Scans.divided (online : Online scan) {all : List α} (scans : Scans scan (bytes ++ more) all (.waits rest)) :
    ∃ items held later, all = items ++ later ∧ Scans scan bytes items (.waits held) ∧ Scans scan (held ++ more) later (.waits rest) := by
  obtain ⟨items,ending,before⟩ := Scans.total online.shrinks bytes
  cases ending with
  | fails error =>
    obtain ⟨_,impossible⟩ := scans.unique (before.append_fails online)
    cases impossible
  | waits held =>
    obtain ⟨later,split,behind⟩ := before.behind online scans
    exact ⟨items,held,later,split,before,behind⟩

theorem Scans.map {γ δ : Type*} {seen : List β → Scan γ β δ} {f : α → γ} {g : ε → δ}
    (same : ∀ bytes, seen bytes = (scan bytes).map f g) (scans : Scans scan bytes items ending) :
    Scans seen bytes (items.map f) (ending.map g) := by
  induction scans with
  | waits waits => exact .waits (by rw [same,waits]; rfl)
  | fails fails => exact .fails (by rw [same,fails]; rfl)
  | takes takes _ ih => exact .takes (by rw [same,takes]; rfl) ih

section Encodings
variable {encode : α → List β} {valid : α → Prop}

theorem scans_stream (online : Online scan) (encodes : ∀ a, valid a → scan (encode a) = .take a [])
    (valids : ∀ a ∈ items, valid a) (goes : Scans scan rest later ending) :
    Scans scan (stream encode items ++ rest) (items ++ later) ending := by
  induction items with
  | nil => exact goes
  | cons item items ih =>
    have first := online.take_append _ _ _ (stream encode items ++ rest) (encodes item (valids item (List.mem_cons_self ..)))
    rw [stream_cons,List.append_assoc]
    exact .takes first (ih fun a member => valids a (List.mem_cons_of_mem _ member))

theorem Scans.lossless (exact_ : ∀ bytes item rest, scan bytes = .take item rest → bytes = encode item ++ rest ∧ valid item)
    (scans : Scans scan bytes items (.waits rest)) : bytes = stream encode items ++ rest ∧ ∀ a ∈ items, valid a := by
  generalize same : Ending.waits rest = ending at scans
  induction scans with
  | waits => cases same; exact ⟨rfl,fun _ member => nomatch member⟩
  | fails => cases same
  | takes takes _ ih =>
    obtain ⟨parts,valids⟩ := ih same
    obtain ⟨front,first⟩ := exact_ _ _ _ takes
    refine ⟨by rw [front,parts,stream_cons,List.append_assoc],fun a member => ?_⟩
    rcases List.mem_cons.mp member with rfl | inside
    · exact first
    · exact valids a inside

theorem wait_part (online : Online scan) {item : α} (encodes : scan (encode item) = .take item [])
    (part : bytes <+: encode item) (short : bytes.length < (encode item).length) : scan bytes = .wait := by
  obtain ⟨missing,whole⟩ := part
  cases verdict : scan bytes with
  | wait => rfl
  | fail error =>
    have fails := online.fail_append _ _ missing verdict
    rw [whole,encodes] at fails
    cases fails
  | take other rest =>
    have takes := online.take_append _ _ _ missing verdict
    rw [whole,encodes] at takes
    obtain ⟨_,nothing⟩ := Scan.take.inj takes
    have size := congrArg List.length whole
    rw [List.length_append] at size
    have none : missing = [] := (List.append_eq_nil_iff.mp nothing.symm).2
    rw [none,List.length_nil] at size
    omega

theorem scans_prefix (online : Online scan) (encodes : ∀ a, valid a → scan (encode a) = .take a [])
    (valids : ∀ a ∈ items, valid a) (carried : bytes <+: stream encode items) :
    ∃ done left rest, items = done ++ left ∧ Scans scan bytes done (.waits rest) ∧ bytes = stream encode done ++ rest ∧
      Incomplete encode rest left := by
  induction items generalizing bytes with
  | nil =>
    obtain rfl : bytes = [] := List.prefix_nil.mp carried
    exact ⟨[],[],[],rfl,.waits online.empty,rfl,rfl⟩
  | cons item items ih =>
    have first := encodes item (valids item (List.mem_cons_self ..))
    rw [stream_cons] at carried
    by_cases short : bytes.length < (encode item).length
    · have part : bytes <+: encode item :=
        List.prefix_of_prefix_length_le carried (List.prefix_append ..) (Nat.le_of_lt short)
      exact ⟨[],item :: items,bytes,rfl,.waits (wait_part online first part short),rfl,short⟩
    · have whole : encode item <+: bytes :=
        List.prefix_of_prefix_length_le (List.prefix_append ..) carried (not_lt.mp short)
      obtain ⟨behind,rfl⟩ := whole
      obtain ⟨done,left,rest,rfl,scans,rfl,incomplete⟩ :=
        ih (fun a member => valids a (List.mem_cons_of_mem _ member)) ((List.prefix_append_right_inj _).mp carried)
      refine ⟨item :: done,left,rest,rfl,.takes (online.take_append _ _ _ _ first) scans,?_,incomplete⟩
      rw [stream_cons,List.append_assoc]

end Encodings

-- A decoder keeps the bytes in its own way, and does with them what the scan says. `rests`
-- is what may be assumed of a state that waits.
structure Follows (scan : List β → Scan α β ε) (next : σ → Except ε (Option α × σ)) (held : σ → List β)
    (sane rests : σ → Prop) : Prop where
  wait : ∀ s, sane s → scan (held s) = .wait → ∃ t, next s = .ok (none,t) ∧ held t = held s ∧ sane t ∧ rests t
  fail : ∀ s error, sane s → scan (held s) = .fail error → next s = .error error
  take : ∀ s item rest, sane s → scan (held s) = .take item rest → ∃ t, next s = .ok (some item,t) ∧ held t = rest ∧ sane t

variable {next : σ → Except ε (Option α × σ)} {held : σ → List β} {sane rests : σ → Prop} {fuel : ℕ} {s : σ}

theorem drain_waits (shrinks : Shrinks scan) (follows : Follows scan next held sane rests) (start : sane s)
    (enough : (held s).length < fuel) (scans : Scans scan (held s) items (.waits rest)) :
    ∃ t, drain next fuel s = .ok (items,t) ∧ held t = rest ∧ sane t ∧ rests t := by
  induction fuel generalizing s items with
  | zero => exact absurd enough (Nat.not_lt_zero _)
  | succ fuel ih =>
    cases scans with
    | waits waits =>
      obtain ⟨t,goes,holds,sane,stays⟩ := follows.wait s start waits
      exact ⟨t,by simp [drain,goes],holds,sane,stays⟩
    | takes takes more =>
      obtain ⟨t,goes,rfl,sane⟩ := follows.take s _ _ start takes
      have shorter := shrinks _ _ _ takes
      obtain ⟨u,drained,ends⟩ := ih sane (by omega) more
      exact ⟨u,by simp [drain,goes,drained],ends⟩

theorem drain_fails (shrinks : Shrinks scan) (follows : Follows scan next held sane rests) (start : sane s)
    (enough : (held s).length < fuel) (scans : Scans scan (held s) items (.fails error)) :
    drain next fuel s = .error error := by
  induction fuel generalizing s items with
  | zero => exact absurd enough (Nat.not_lt_zero _)
  | succ fuel ih =>
    cases scans with
    | fails fails => simp [drain,follows.fail s error start fails]
    | takes takes more =>
      obtain ⟨t,goes,rfl,sane⟩ := follows.take s _ _ start takes
      have shorter := shrinks _ _ _ takes
      simp [drain,goes,ih sane (by omega) more]

theorem drain_answers (shrinks : Shrinks scan) (follows : Follows scan next held sane rests) (start : sane s)
    (enough : (held s).length < fuel) :
    (∃ items t, drain next fuel s = .ok (items,t) ∧ Scans scan (held s) items (.waits (held t)) ∧ sane t ∧ rests t) ∨
    ∃ items error, drain next fuel s = .error error ∧ Scans scan (held s) items (.fails error) := by
  obtain ⟨items,ending,scans⟩ := Scans.total shrinks (held s)
  cases ending with
  | waits rest =>
    obtain ⟨t,drained,rfl,ends⟩ := drain_waits shrinks follows start enough scans
    exact .inl ⟨items,t,drained,scans,ends⟩
  | fails error => exact .inr ⟨items,error,drain_fails shrinks follows start enough scans,scans⟩

end Framing

import HistorySurvey.Command.Arguments

/-! The flags that add rules, from left to right. A value may be taken up later than it is read, and
every flag and value gets an index then. Nothing changes places by that. -/
namespace HistorySurvey.Command

/-- An occurrence of a flag with its text, wherever it stands. -/
def Mention.written (mention : Mention) : RuleFlag × String := (mention.flag, mention.text)

/-- Indices grow along a command line. -/
def Ascending (mentions : List Mention) : Prop := mentions.Pairwise (·.index < ·.index)

/-- No switch of a group is given twice. -/
def OnceEach (mentions : List Mention) : Prop :=
  ∀ polarity group, (mentions.filter (·.flag = .group polarity group)).length ≤ 1

/-- The rule that a switch adds, if any. -/
def Switch.adds : Switch → List (RuleFlag × String)
  | .group polarity whose => [(.group polarity whose, "")]
  | _ => []

def Setting.adds (text : String) : Setting → List (RuleFlag × String)
  | .rule polarity regex => [(.setting polarity regex, text)]
  | _ => []

/-- What a reader expects next: a flag or a path, the value of a setting, or nothing but paths. -/
inductive Expected
  | flag
  | value (setting : Setting)
  | path

/-- What a long flag adds, perhaps with a value behind a sign of equality, and what is expected
after it. -/
def Expected.readLong (name : String) (given : Option String) : List (RuleFlag × String) × Expected :=
  match switches.lookup name, settings.lookup name, given with
  | some switch, _, _ => (switch.adds, .flag)
  | none, some wanted, some text => (wanted.adds text, .flag)
  | none, some wanted, none => ([], .value wanted)
  | none, none, _ => ([], .flag)

def Expected.read : Expected → String → List (RuleFlag × String) × Expected
  | .path, _ => ([], .path)
  | .value wanted, text => (wanted.adds text, .flag)
  | .flag, word =>
    match word.toList with
    | ['-', '-'] => ([], .path)
    | '-' :: '-' :: long => readLong (Parser.splitValue long).1 (Parser.splitValue long).2
    | _ => ([], .flag)

/-- The flags that add rules among words, from left to right. -/
def Expected.flags : Expected → List String → List (RuleFlag × String)
  | _, [] => []
  | expected, word :: rest => (expected.read word).1 ++ (expected.read word).2.flags rest

private theorem ok_of_bind {ε α β : Type} {x : Except ε α} {next : α → Except ε β} {b : β}
    (fine : (x >>= next) = .ok b) : ∃ a, x = .ok a ∧ next a = .ok b := by
  cases x with
  | error error => contradiction
  | ok a => exact ⟨a, rfl, fine⟩

namespace Arguments

variable {a b c : Arguments} {new more : List (RuleFlag × String)}

def written (a : Arguments) : List (RuleFlag × String) := a.mentions.map Mention.written

structure Ordered (a : Arguments) : Prop where
  ascending : Ascending a.mentions
  below : ∀ mention ∈ a.mentions, mention.index < a.index
  /-- Switches that are on were given once, and the others not at all. -/
  once : ∀ polarity group, (a.mentions.filter (·.flag = .group polarity group)).length ≤
    if a.has (.group polarity group) then 1 else 0

/-- Some flags are taken after those before. -/
structure Takes (a : Arguments) (new : List (RuleFlag × String)) (b : Arguments) : Prop where
  ordered : a.Ordered → b.Ordered
  written : b.written = a.written ++ new

theorem Takes.refl (a : Arguments) : Takes a [] a := ⟨id, (List.append_nil _).symm⟩

theorem Takes.trans (first : Takes a new b) (second : Takes b more c) : Takes a (new ++ more) c :=
  ⟨second.ordered ∘ first.ordered, by rw [second.written, first.written, List.append_assoc]⟩

theorem ordered_none : none.Ordered :=
  ⟨.nil, nofun, fun _ _ => Nat.zero_le _⟩

theorem Ordered.onceEach (ordered : a.Ordered) : OnceEach a.mentions := by
  intro polarity group
  have few := ordered.once polarity group
  split at few <;> omega

/-- Nothing is added, and no switch of a group is taken back. -/
theorem takes_nothing (mentions : b.mentions = a.mentions) (index : a.index ≤ b.index)
    (has : ∀ polarity group, b.has (.group polarity group) = a.has (.group polarity group)) :
    Takes a [] b := by
  refine ⟨fun ordered => ⟨?_, fun mention member => ?_, fun polarity group => ?_⟩, ?_⟩
  · rw [mentions]
    exact ordered.ascending
  · rw [mentions] at member
    exact Nat.lt_of_lt_of_le (ordered.below mention member) index
  · rw [mentions, has]
    exact ordered.once polarity group
  · rw [written, mentions, List.append_nil]
    rfl

/-- One flag is added, a switch only if it was not on before. -/
theorem takes_mention {mention : Mention} (mentions : b.mentions = a.mentions ++ [mention])
    (after : a.index ≤ mention.index) (index : mention.index < b.index)
    (has : ∀ polarity group, b.has (.group polarity group) =
      (decide (mention.flag = .group polarity group) || a.has (.group polarity group)))
    (fresh : ∀ polarity group, mention.flag = .group polarity group →
      a.has (.group polarity group) = false) : Takes a [mention.written] b := by
  refine ⟨fun ordered => ⟨?_, fun other member => ?_, fun polarity group => ?_⟩, ?_⟩
  · rw [mentions]
    refine List.pairwise_append.mpr ⟨ordered.ascending, List.pairwise_singleton _ _, ?_⟩
    intro earlier before last here
    rw [List.mem_singleton.mp here]
    exact Nat.lt_of_lt_of_le (ordered.below earlier before) after
  · rw [mentions, List.mem_append, List.mem_singleton] at member
    rcases member with before | rfl
    · exact Nat.lt_trans (Nat.lt_of_lt_of_le (ordered.below other before) after) index
    · exact index
  · have before := ordered.once polarity group
    rw [mentions, List.filter_append, List.length_append, has]
    by_cases same : mention.flag = .group polarity group
    · rw [fresh polarity group same, if_neg Bool.false_ne_true] at before
      have one : [mention].filter (·.flag = .group polarity group) = [mention] := by simp [same]
      rw [one, decide_eq_true same, Bool.true_or, if_pos rfl, List.length_singleton]
      omega
    · simpa [same] using before
  · rw [written, mentions, List.map_append]
    rfl

theorem turnOn_ok {switch : Switch} : a.turnOn switch = .ok b →
    a.has switch = false ∧
    b.switches = switch :: a.switches.filter (fun other => some other ≠ opposite? switch) ∧
    b.mentions = (match switch with
      | .group polarity group => a.mentions ++ [⟨.group polarity group, a.index, ""⟩]
      | _ => a.mentions) ∧ b.index = a.index + 1 := by
  intro turned
  unfold turnOn at turned
  split at turned
  · contradiction
  · contradiction
  · split at turned
    · contradiction
    · rename_i off
      obtain rfl := Except.ok.inj turned
      exact ⟨Bool.eq_false_iff.mpr off, rfl, rfl, rfl⟩

theorem has_turnOn {switch : Switch} (turned : a.turnOn switch = .ok b)
    (polarity : References.Polarity) (group : Group) :
    b.has (.group polarity group) =
      (decide (switch = .group polarity group) || a.has (.group polarity group)) := by
  have apart : some (Switch.group polarity group) ≠ opposite? switch := by
    cases switch <;> simp [opposite?]
  have kept : (a.switches.filter fun other => some other ≠ opposite? switch).contains
      (.group polarity group) = a.has (.group polarity group) := by
    rw [has, Bool.eq_iff_iff]
    simp [apart]
  rw [has, (turnOn_ok turned).2.1, List.contains_cons, kept, BEq.comm]
  rfl

theorem takes_turnOn {switch : Switch} (turned : a.turnOn switch = .ok b) :
    Takes a switch.adds b := by
  obtain ⟨off, _, mentions, index⟩ := turnOn_ok turned
  have has := has_turnOn turned
  cases switch with
  | group polarity group =>
    refine takes_mention mentions (Nat.le_refl _) ?_ (fun other whose => ?_) fun other whose same => ?_
    · rw [index]
      exact Nat.lt_succ_self _
    · rw [has]
      simp
    · obtain ⟨rfl, rfl⟩ := RuleFlag.group.inj same
      exact off
  | _ =>
    refine takes_nothing mentions (index ▸ Nat.le_succ _) fun polarity group => ?_
    rw [has]
    rfl

theorem takes_apply {wanted : Setting} {text : String} (applied : a.apply wanted text = .ok b) :
    Takes a (wanted.adds text) b := by
  unfold apply at applied
  cases wanted with
  | rule polarity regex =>
    have made := Except.ok.inj applied
    have mentions : b.mentions = a.mentions ++ [⟨.setting polarity regex, a.index + 1, text⟩] := by
      rw [← made]
    have index : b.index = a.index + 2 := by rw [← made]
    refine takes_mention mentions (Nat.le_succ _) ?_ (fun _ _ => ?_) fun _ _ same => ?_
    · rw [index]
      exact Nat.lt_succ_self _
    · rw [← made]
      simp [has]
    · contradiction
  | _ =>
    obtain ⟨value, _, made⟩ := ok_of_bind applied
    obtain rfl := Except.ok.inj made
    exact takes_nothing rfl (Nat.le_add_right _ _) fun _ _ => rfl

end Arguments

/-- What a pending argument will add. -/
def Pending.adds : Pending → List (RuleFlag × String)
  | .setting wanted (some text) => wanted.adds text
  | _ => []

theorem Pending.takes_resolve {pending : Pending} {a b : Arguments}
    (resolved : pending.resolve a = .ok b) : Arguments.Takes a pending.adds b := by
  unfold resolve at resolved
  split at resolved
  · contradiction
  · exact Arguments.takes_apply resolved
  · split at resolved
    · contradiction
    · obtain rfl := Except.ok.inj resolved
      exact Arguments.takes_nothing rfl (Nat.le_succ _) fun _ _ => rfl

namespace Parser

/-- What a parser has taken and what it will still take. -/
def written (p : Parser) : List (RuleFlag × String) :=
  p.arguments.written ++ (p.pending.map Pending.adds).getD []

/-- Whether a setting waits for a value. -/
def Waits (p : Parser) (wanted : Setting) : Prop := p.pending = some (.setting wanted none)

def expected (p : Parser) : Expected :=
  if p.pathsOnly then .path
  else match p.pending with
    | some (.setting wanted none) => .value wanted
    | _ => .flag

/-- The flags of a word are taken, at once or later. -/
structure Reads (p : Parser) (new : List (RuleFlag × String)) (q : Parser) : Prop where
  ordered : p.arguments.Ordered → q.arguments.Ordered
  written : q.written = p.written ++ new

variable {p q r : Parser} {new more : List (RuleFlag × String)}

theorem written_of_idle (nothing : p.pending = none) : p.written = p.arguments.written := by
  rw [written, nothing]
  exact List.append_nil _

theorem Reads.refl (p : Parser) : Reads p [] p := ⟨id, (List.append_nil _).symm⟩

theorem Reads.trans (first : Reads p new q) (second : Reads q more r) : Reads p (new ++ more) r :=
  ⟨second.ordered ∘ first.ordered, by rw [second.written, first.written, List.append_assoc]⟩

/-- What is taken while nothing is pending is taken at once. -/
theorem Reads.takes {arguments : Arguments} (reads : Reads p [] q) (nothing : q.pending = none)
    (takes : Arguments.Takes q.arguments new arguments) :
    Reads p new { q with arguments := arguments } := by
  refine reads.trans ⟨takes.ordered, ?_⟩
  rw [written_of_idle nothing, ← takes.written]
  exact written_of_idle nothing

/-- An argument that adds nothing by itself is pending from now on. -/
theorem Reads.waits {pending : Pending} (reads : Reads p [] q) (nothing : q.pending = none)
    (kept : r.arguments = q.arguments) (waits : r.pending = some pending)
    (bare : pending.adds = []) : Reads p [] r := by
  refine reads.trans ⟨fun ordered => kept ▸ ordered, ?_⟩
  rw [Parser.written, waits, kept, written_of_idle nothing, Option.map_some, bare]
  rfl

/-- A parser that takes up what was pending waits for nothing. -/
theorem resolve_ok (resolved : p.resolve = .ok q) :
    Reads p [] q ∧ q.pending = none ∧ q.pathsOnly = p.pathsOnly ∧ ∀ wanted, ¬ p.Waits wanted := by
  unfold resolve at resolved
  split at resolved
  · rename_i pending known
    obtain ⟨arguments, taken, made⟩ := ok_of_bind resolved
    obtain rfl := Except.ok.inj made
    have takes := Pending.takes_resolve taken
    refine ⟨⟨takes.ordered, ?_⟩, rfl, rfl, fun wanted waits => ?_⟩
    · simp [written, known, takes.written]
    · rw [Waits, known] at waits
      obtain rfl := Option.some.inj waits
      contradiction
  · rename_i nothing
    obtain rfl := Except.ok.inj resolved
    refine ⟨.refl p, nothing, rfl, fun wanted waits => ?_⟩
    rw [Waits, nothing] at waits
    contradiction

theorem turnOn_reads {switch : Switch} (turned : p.turnOn switch = .ok q) :
    Reads p switch.adds q ∧ q.pending = none ∧ q.pathsOnly = p.pathsOnly ∧
      ∀ wanted, ¬ p.Waits wanted := by
  obtain ⟨r, resolved, further⟩ := ok_of_bind turned
  obtain ⟨arguments, taken, made⟩ := ok_of_bind further
  obtain rfl := Except.ok.inj made
  obtain ⟨reads, nothing, paths, idle⟩ := resolve_ok resolved
  exact ⟨reads.takes nothing (Arguments.takes_turnOn taken), nothing, paths, idle⟩

theorem long_reads {name : String} {given : Option String} (flags : p.pathsOnly = false)
    (taken : p.long name given = .ok q) :
    Reads p (Expected.readLong name given).1 q ∧ q.expected = (Expected.readLong name given).2 ∧
      ∀ wanted, ¬ p.Waits wanted := by
  unfold long at taken
  unfold Expected.readLong
  split at taken
  · rename_i switch known
    obtain ⟨reads, nothing, paths, idle⟩ := turnOn_reads taken
    rw [flags] at paths
    simp only [known]
    exact ⟨reads, by simp [expected, paths, nothing], idle⟩
  · contradiction
  · rename_i wanted text none known
    obtain ⟨r, resolved, further⟩ := ok_of_bind taken
    obtain ⟨arguments, applied, made⟩ := ok_of_bind further
    obtain rfl := Except.ok.inj made
    obtain ⟨reads, nothing, paths, idle⟩ := resolve_ok resolved
    rw [flags] at paths
    simp only [none, known]
    exact ⟨reads.takes nothing (Arguments.takes_apply applied), by simp [expected, paths, nothing],
      idle⟩
  · rename_i wanted none known
    obtain ⟨r, resolved, made⟩ := ok_of_bind taken
    obtain rfl := Except.ok.inj made
    obtain ⟨reads, nothing, paths, idle⟩ := resolve_ok resolved
    rw [flags] at paths
    simp only [none, known]
    exact ⟨reads.waits nothing rfl rfl rfl, by simp [expected, paths], idle⟩
  · contradiction

theorem adds_letter {letter : Char} {switch : Switch} (known : letters.lookup letter = some switch) :
    switch.adds = [] := by
  obtain ⟨before, after, parts, _⟩ := List.lookup_eq_some_iff.mp known
  have listed : (letter, switch) ∈ letters := by
    rw [parts]
    exact List.mem_append_right before List.mem_cons_self
  have all : ∀ entry ∈ letters, entry.2.adds = [] := by decide
  exact all _ listed

theorem short_reads {letter : Char} {more : List Char} (flags : p.pathsOnly = false)
    (taken : p.short (letter :: more) = .ok q) :
    Reads p [] q ∧ q.expected = .flag ∧ ∀ wanted, ¬ p.Waits wanted := by
  induction more generalizing p letter with
  | nil =>
    unfold short at taken
    split at taken
    · rename_i switch known
      obtain ⟨r, turned, made⟩ := ok_of_bind taken
      obtain rfl := Except.ok.inj made
      obtain ⟨reads, nothing, paths, idle⟩ := turnOn_reads turned
      rw [adds_letter known] at reads
      rw [flags] at paths
      exact ⟨reads, by simp [expected, paths, nothing], idle⟩
    · contradiction
  | cons next rest ih =>
    unfold short at taken
    split at taken
    · rename_i switch known
      obtain ⟨r, turned, further⟩ := ok_of_bind taken
      obtain ⟨reads, _, paths, idle⟩ := turnOn_reads turned
      rw [adds_letter known] at reads
      obtain ⟨others, expected, _⟩ := ih (paths.trans flags) further
      exact ⟨reads.trans others, expected, idle⟩
    · contradiction

theorem word_value {wanted : Setting} {text : String} (flags : p.pathsOnly = false)
    (waits : p.Waits wanted) (taken : p.word text = .ok q) :
    Reads p (wanted.adds text) q ∧ q.expected = .flag := by
  unfold word at taken
  rw [waits, flags] at taken
  obtain rfl := Except.ok.inj taken
  exact ⟨⟨id, by simp [written, show p.pending = _ from waits, Pending.adds]⟩, rfl⟩

theorem word_path {text : String} (waits : p.pathsOnly = false → ∀ wanted, ¬ p.Waits wanted)
    (taken : p.word text = .ok q) :
    Reads p [] q ∧ q.expected = (if p.pathsOnly then .path else .flag) ∧
      ∀ wanted, ¬ p.Waits wanted := by
  unfold word at taken
  split at taken
  · rename_i wanted waiting flags
    exact absurd waiting (waits flags wanted)
  · split at taken
    · contradiction
    · obtain ⟨r, resolved, made⟩ := ok_of_bind taken
      obtain rfl := Except.ok.inj made
      obtain ⟨reads, nothing, paths, idle⟩ := resolve_ok resolved
      exact ⟨reads.waits nothing rfl rfl rfl, by simp [expected, paths], idle⟩

/-- A setting waits for a value although only paths follow. Nothing is accepted any more. -/
def Stuck (p : Parser) : Prop := p.pathsOnly = true ∧ ∃ wanted, p.Waits wanted

theorem Stuck.refuses (stuck : p.Stuck) (words : List String) :
    (words.foldlM next p >>= resolve) ≠ .ok q := by
  obtain ⟨paths, wanted, waits⟩ := stuck
  intro taken
  cases words with
  | nil => exact (resolve_ok taken).2.2.2 wanted waits
  | cons text rest =>
    rw [List.foldlM_cons] at taken
    obtain ⟨last, further, _⟩ := ok_of_bind taken
    obtain ⟨r, first, _⟩ := ok_of_bind further
    unfold next at first
    rw [if_pos paths] at first
    have free : p.pathsOnly = false → ∀ wanted, ¬ p.Waits wanted := fun flags => by
      rw [flags] at paths
      contradiction
    exact (word_path free first).2.2 wanted waits

theorem expected_of_waits {wanted : Setting} (flags : p.pathsOnly = false) (waits : p.Waits wanted) :
    p.expected = .value wanted := by
  rw [expected, flags, show p.pending = _ from waits]
  rfl

theorem expected_of_idle (flags : p.pathsOnly = false) (idle : ∀ wanted, ¬ p.Waits wanted) :
    p.expected = .flag := by
  rw [expected, flags, if_neg Bool.false_ne_true]
  split
  · rename_i wanted waits
    exact absurd waits (idle wanted)
  · rfl

/-- Each word is taken as it is expected, unless nothing is accepted after it. -/
theorem next_reads {text : String} (taken : p.next text = .ok q) :
    q.Stuck ∨ Reads p (p.expected.read text).1 q ∧ q.expected = (p.expected.read text).2 := by
  unfold next at taken
  cases paths : p.pathsOnly with
  | true =>
    rw [if_pos paths] at taken
    have unstuck : p.pathsOnly = false → ∀ wanted, ¬ p.Waits wanted := fun flags => by
      rw [flags] at paths
      contradiction
    obtain ⟨reads, expects, _⟩ := word_path unstuck taken
    have only : p.expected = .path := if_pos paths
    rw [only]
    rw [if_pos paths] at expects
    exact .inr ⟨reads, expects⟩
  | false =>
    rw [if_neg (Bool.eq_false_iff.mp paths)] at taken
    split at taken
    · -- Only paths follow. If a setting waits, it waits in vain.
      rename_i marks
      obtain rfl := Except.ok.inj taken
      by_cases waiting : ∃ wanted, p.Waits wanted
      · exact .inl ⟨rfl, waiting⟩
      · rw [not_exists] at waiting
        rw [expected_of_idle paths waiting, Expected.read, marks]
        exact .inr ⟨⟨id, (List.append_nil _).symm⟩, rfl⟩
    · rename_i long ordinary marks
      obtain ⟨reads, expects, idle⟩ := long_reads paths taken
      have read : Expected.flag.read text =
          Expected.readLong (splitValue long).1 (splitValue long).2 := by
        unfold Expected.read
        split <;> simp_all
      rw [expected_of_idle paths idle, read]
      exact .inr ⟨reads, expects⟩
    · rename_i letter more plain long marks
      obtain ⟨reads, expects, idle⟩ := short_reads paths taken
      have read : Expected.flag.read text = ([], .flag) := by
        unfold Expected.read
        split <;> simp_all
      rw [expected_of_idle paths idle, read]
      exact .inr ⟨reads, expects⟩
    · rename_i plain long short
      by_cases waiting : ∃ wanted, p.Waits wanted
      · obtain ⟨wanted, waits⟩ := waiting
        obtain ⟨reads, expects⟩ := word_value paths waits taken
        rw [expected_of_waits paths waits]
        exact .inr ⟨reads, expects⟩
      · rw [not_exists] at waiting
        obtain ⟨reads, expects, _⟩ := word_path (fun _ => waiting) taken
        have read : Expected.flag.read text = ([], .flag) := by
          unfold Expected.read
          split <;> simp_all
        rw [expected_of_idle paths waiting, read]
        rw [if_neg (Bool.eq_false_iff.mp paths)] at expects
        exact .inr ⟨reads, expects⟩

theorem foldlM_reads {words : List String} (taken : (words.foldlM next p >>= resolve) = .ok q) :
    Reads p (p.expected.flags words) q ∧ q.pending = none := by
  induction words generalizing p with
  | nil =>
    obtain ⟨reads, nothing, _⟩ := resolve_ok taken
    exact ⟨reads, nothing⟩
  | cons text rest ih =>
    rw [List.foldlM_cons, bind_assoc] at taken
    obtain ⟨r, first, further⟩ := ok_of_bind taken
    rcases next_reads first with stuck | ⟨reads, expects⟩
    · exact absurd further (stuck.refuses rest)
    · obtain ⟨others, nothing⟩ := ih further
      rw [expects] at others
      exact ⟨reads.trans others, nothing⟩

end Parser

/-- A command line that is accepted gives its flags in the order in which they are written, with
indices that grow, and each switch of a group once. -/
theorem Arguments.read_ok {words : List String} {a : Arguments} (accepted : read words = .ok a) :
    a.written = Expected.flag.flags words ∧ Ascending a.mentions ∧ OnceEach a.mentions := by
  obtain ⟨p, folded, further⟩ := ok_of_bind accepted
  obtain ⟨q, resolved, checked⟩ := ok_of_bind further
  have taken : (words.foldlM Parser.next .start >>= Parser.resolve) = .ok q := by
    rw [folded]
    exact resolved
  obtain ⟨reads, nothing⟩ := Parser.foldlM_reads taken
  have same : q.arguments = a := by
    split at checked
    · contradiction
    · exact Except.ok.inj checked
  have ordered := reads.ordered ordered_none
  have all := reads.written
  rw [Parser.written_of_idle nothing] at all
  rw [same] at ordered all
  exact ⟨all, ordered.ascending, ordered.onceEach⟩

end HistorySurvey.Command

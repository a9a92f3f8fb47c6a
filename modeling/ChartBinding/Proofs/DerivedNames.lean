import ChartBinding.Field
import Mathlib.Data.List.Forall2

/-!
# The names of derived fields

A pattern gives pieces that make up the text, each fit for its part (`Text.Pattern.Cuts`), and it
gives some whenever there are any. Which ones are preferred does not matter for the two patterns of
derived names: there is only one way to cut a text by either of them. No operation has an underscore
in its name, so the first underscore ends the operation (`Field.IsAggregateOf`); and no suffix of a
bin ends with another one, so the end of the name tells which suffix it is (`Field.IsBinOf`).
-/

namespace ChartBinding

/-! ## Cuts of a text -/

namespace Text

/-- Whether a piece of text is fit for a part of a pattern. -/
def Part.Takes : Part → List Char → Prop
  | oneOf words, piece => piece ∈ words
  | line, piece => '\n' ∉ piece

/-- The pieces make up the text and are fit for the parts of the pattern, in order. -/
structure Pattern.Cuts (p : Pattern) (cs : List Char) (pieces : List (List Char)) : Prop where
  takes : List.Forall₂ Part.Takes p pieces
  whole : pieces.flatten = cs

section

variable {α : Type} {fits : List Char → Option α}

theorem of_shortest {cs : List Char} {r : List Char × α} (found : shortest fits cs = some r) :
    '\n' ∉ r.1 ∧ ∃ behind, r.1 ++ behind = cs ∧ fits behind = some r.2 := by
  induction cs generalizing r with
  | nil =>
      obtain ⟨a, fit, rfl⟩ := Option.map_eq_some_iff.1 found
      exact ⟨List.not_mem_nil, [], rfl, fit⟩
  | cons c cs ih =>
      rw [shortest] at found
      split at found
      · next a fit =>
          cases found
          exact ⟨List.not_mem_nil, c :: cs, rfl, fit⟩
      · split at found
        · cases found
        · next plain =>
            obtain ⟨r', found', rfl⟩ := Option.map_eq_some_iff.1 found
            obtain ⟨onLine, behind, rfl, fit⟩ := ih found'
            refine ⟨?_, behind, rfl, fit⟩
            rintro (_ | ⟨_, there⟩)
            · exact plain rfl
            · exact onLine there

/-- What fits behind some stretch of a line is found. -/
theorem isSome_shortest {stretch behind : List Char} (onLine : '\n' ∉ stretch)
    (fit : (fits behind).isSome = true) : (shortest fits (stretch ++ behind)).isSome = true := by
  induction stretch with
  | nil =>
      obtain ⟨a, fit⟩ := Option.isSome_iff_exists.1 fit
      cases behind <;> simp [shortest, fit]
  | cons c stretch ih =>
      have plain : c ≠ '\n' := fun eq => onLine (eq ▸ List.mem_cons_self)
      rw [List.cons_append, shortest]
      split
      · rfl
      · rw [if_neg plain, Option.isSome_map]
        exact ih fun there => onLine (List.mem_cons_of_mem c there)

end

namespace Pattern

/-- The pieces that a pattern gives are a cut. -/
theorem cuts_of_pieces? {p : Pattern} {cs : List Char} {pieces : List (List Char)}
    (found : p.pieces? cs = some pieces) : p.Cuts cs pieces := by
  induction p generalizing cs pieces with
  | nil =>
      rw [pieces?] at found
      split at found
      · next empty =>
          cases found
          exact ⟨.nil, (List.isEmpty_iff.1 empty).symm⟩
      · cases found
  | cons part rest ih =>
      cases part with
      | oneOf words =>
          obtain ⟨w, known, found⟩ := List.exists_of_findSome?_eq_some found
          obtain ⟨behind, starts, found⟩ := Option.bind_eq_some_iff.1 found
          obtain ⟨others, fit, rfl⟩ := Option.map_eq_some_iff.1 found
          obtain ⟨takes, whole⟩ := ih fit
          refine ⟨.cons known takes, ?_⟩
          rw [List.flatten_cons, whole]
          exact List.isPrefixOf?_eq_some_iff_append_eq.1 starts
      | line =>
          obtain ⟨⟨stretch, others⟩, first, rfl⟩ := Option.map_eq_some_iff.1 found
          obtain ⟨onLine, behind, rfl, fit⟩ := of_shortest first
          obtain ⟨takes, whole⟩ := ih fit
          exact ⟨.cons onLine takes, by rw [List.flatten_cons, whole]⟩

/-- A pattern gives pieces for every text that has a cut. -/
theorem Cuts.isSome_pieces? {p : Pattern} {cs : List Char} {pieces : List (List Char)}
    (cut : p.Cuts cs pieces) : (p.pieces? cs).isSome = true := by
  obtain ⟨takes, rfl⟩ := cut
  induction takes with
  | nil => rfl
  | @cons part piece rest others fit takes ih =>
      cases part with
      | oneOf words =>
          refine List.findSome?_isSome_iff.2 ⟨piece, fit, ?_⟩
          have starts : piece.isPrefixOf? (piece ++ others.flatten) = some others.flatten :=
            List.isPrefixOf?_eq_some_iff_append_eq.2 rfl
          rw [List.flatten_cons, starts, Option.bind_some, Option.isSome_map]
          exact ih
      | line =>
          rw [pieces?, List.flatten_cons, Option.isSome_map]
          exact isSome_shortest fit ih

end Pattern

end Text

/-! ## Aggregates -/

theorem Aggregate.underscore_not_mem_name (op : Aggregate) : '_' ∉ op.name.toList := by
  cases op <;> decide

namespace Field

/-- What stands before the first underscore of a name. -/
def beforeUnderscore (name : String) : String :=
  String.ofList (name.toList.takeWhile (· ≠ '_'))

/-- What stands behind the first underscore of a name. -/
def behindUnderscore (name : String) : String :=
  String.ofList (name.toList.dropWhile (· ≠ '_')).tail

/-- No matter how many more underscores follow, the first one divides the name. -/
theorem divide {head : String} (plain : '_' ∉ head.toList) (tail : String) :
    beforeUnderscore (head ++ "_" ++ tail) = head ∧
      behindUnderscore (head ++ "_" ++ tail) = tail := by
  have spelled : (head ++ "_" ++ tail).toList = head.toList ++ '_' :: tail.toList := by simp
  have inside : ∀ c ∈ head.toList, decide (c ≠ '_') = true :=
    fun c there => decide_eq_true fun eq => plain (eq ▸ there)
  rw [beforeUnderscore, behindUnderscore, spelled, List.takeWhile_append_of_pos inside,
    List.dropWhile_append_of_pos inside]
  simp

theorem exists_divide {name : String} (there : '_' ∈ name.toList) :
    ∃ head tail : String, '_' ∉ head.toList ∧ name = head ++ "_" ++ tail := by
  obtain ⟨before, behind, eq, plain⟩ := List.eq_append_cons_of_mem there
  refine ⟨String.ofList before, String.ofList behind, by rwa [String.toList_ofList], ?_⟩
  apply String.toList_injective
  simpa using eq

/-- A name is made of an operation, an underscore and a source on one line. -/
structure IsAggregateOf (name : String) (op : Aggregate) (source : String) : Prop where
  spelled : name = op.name ++ "_" ++ source
  onLine : '\n' ∉ source.toList

theorem exists_isAggregateOf_iff {name : String} :
    (∃ op source, IsAggregateOf name op source) ↔
      '_' ∈ name.toList ∧ (∃ op : Aggregate, op.name = beforeUnderscore name) ∧
        '\n' ∉ (behindUnderscore name).toList := by
  constructor
  · rintro ⟨op, source, rfl, onLine⟩
    obtain ⟨before, behind⟩ := divide op.underscore_not_mem_name source
    exact ⟨by simp, ⟨op, before.symm⟩, by rwa [behind]⟩
  · rintro ⟨there, ⟨op, opens⟩, onLine⟩
    obtain ⟨head, tail, plain, rfl⟩ := exists_divide there
    obtain ⟨before, behind⟩ := divide plain tail
    rw [before] at opens
    rw [behind] at onLine
    exact ⟨op, tail, by rw [opens], onLine⟩

theorem cuts_aggregatePattern_iff {name : String} {pieces : List (List Char)} :
    aggregatePattern.Cuts name.toList pieces ↔
      ∃ op source, IsAggregateOf name op source ∧
        pieces = [op.name.toList, ['_'], source.toList] := by
  constructor
  · rintro ⟨_ | ⟨known, _ | ⟨underscore, _ | ⟨onLine, _ | _⟩⟩⟩, whole⟩
    obtain ⟨op, -, rfl⟩ := List.mem_map.1 known
    cases List.mem_singleton.1 underscore
    refine ⟨op, String.ofList _, ⟨?_, by rwa [String.toList_ofList]⟩, by simp⟩
    apply String.toList_injective
    simpa using whole.symm
  · rintro ⟨op, source, ⟨rfl, onLine⟩, rfl⟩
    have takes : List.Forall₂ Text.Part.Takes aggregatePattern
        [op.name.toList, ['_'], source.toList] :=
      .cons (List.mem_map_of_mem op.mem_all) (.cons (List.mem_singleton_self _) (.cons onLine .nil))
    exact ⟨takes, by simp⟩

/-- Either the name is that of an aggregate, and it is taken apart, or its form is refused. Nothing
else is ever refused: an operation that the pattern has found is known. -/
theorem decode_aggregate_cases (name : String) (bin : Bool) (measure : Measure) :
    (∃ op source, IsAggregateOf name op source ∧
      decode ⟨name, true, bin, measure⟩ = .ok ⟨some (.aggregate op), source⟩) ∨
    (¬ ∃ op source, IsAggregateOf name op source) ∧
      decode ⟨name, true, bin, measure⟩ =
        .error (.ofCause (.patternDecode
          ("Aggregated field " ++ Text.quoted name ++ " is not of the form <op>_<field>"))) := by
  cases found : aggregatePattern.pieces? name.toList with
  | none =>
      refine .inr ⟨?_, by simp [decode, found]⟩
      rintro ⟨op, source, isAggregate⟩
      have cut := cuts_aggregatePattern_iff.2 ⟨op, source, isAggregate, rfl⟩
      simpa [found] using cut.isSome_pieces?
  | some pieces =>
      obtain ⟨op, source, isAggregate, rfl⟩ :=
        cuts_aggregatePattern_iff.1 (Text.Pattern.cuts_of_pieces? found)
      exact .inl ⟨op, source, isAggregate, by simp [decode, found, Aggregate.ofName?_name]⟩

theorem channelDef_eq_ok_iff {f : Field} {c : ChannelDef} :
    f.channelDef = .ok c ↔ ∃ d, f.decode = .ok d ∧ c = d.channelDef f.measure := by
  rw [channelDef]
  cases f.decode with
  | error e => exact iff_of_false nofun nofun
  | ok d =>
      constructor
      · rintro ⟨⟩
        exact ⟨d, rfl, rfl⟩
      · rintro ⟨_, ⟨⟩, rfl⟩
        rfl

/-- **An aggregated name is divided at its first underscore.** It is taken apart exactly if there is
an underscore, an operation before the first one and a single line behind it; these two then make up
the name and the definition of the channel. Any other name is refused for its form, and none because
the operation that was found in it is not known. -/
theorem aggregated_divided_at_first_underscore (name : String) (bin : Bool) (measure : Measure) :
    ((∃ d, decode ⟨name, true, bin, measure⟩ = .ok d) ↔
        '_' ∈ name.toList ∧ (∃ op : Aggregate, op.name = beforeUnderscore name) ∧
          '\n' ∉ (behindUnderscore name).toList) ∧
      (∀ d, decode ⟨name, true, bin, measure⟩ = .ok d →
        ∃ op : Aggregate, op.name = beforeUnderscore name ∧
          d = ⟨some (.aggregate op), behindUnderscore name⟩ ∧
          op.name ++ "_" ++ d.source = name ∧
          channelDef ⟨name, true, bin, measure⟩ = .ok ⟨measure, d.source, some op, none⟩) ∧
      ∀ e, decode ⟨name, true, bin, measure⟩ = .error e →
        e = .ofCause (.patternDecode
          ("Aggregated field " ++ Text.quoted name ++ " is not of the form <op>_<field>")) := by
  rw [← exists_isAggregateOf_iff]
  rcases decode_aggregate_cases name bin measure with
    ⟨op, source, isAggregate, decoded⟩ | ⟨unlike, decoded⟩
  · have shown := channelDef_eq_ok_iff.2 ⟨_, decoded, rfl⟩
    refine ⟨iff_of_true ⟨_, decoded⟩ ⟨op, source, isAggregate⟩, ?_, by simp [decoded]⟩
    intro d again
    obtain rfl := Except.ok.inj (decoded.symm.trans again)
    obtain ⟨rfl, -⟩ := isAggregate
    obtain ⟨before, behind⟩ := divide op.underscore_not_mem_name source
    exact ⟨op, before.symm, by rw [behind], rfl, shown⟩
  · refine ⟨iff_of_false (by simp [decoded]) unlike, by simp [decoded], ?_⟩
    intro e again
    exact (Except.error.inj (decoded.symm.trans again)).symm

example : decode (aggregated "count_distinct_id" .nominal) =
    .ok ⟨some (.aggregate .count), "distinct_id"⟩ := rfl

/-! ## Bins -/

/-- A name is made of the prefix of bins, a source on one line and a suffix of bins. -/
structure IsBinOf (name source : String) : Prop where
  spelled : ∃ suffix ∈ binSuffixes, name = "bin_" ++ source ++ suffix
  onLine : '\n' ∉ source.toList

/-- Names that differ at most in the suffix of bins at their end. -/
def AlikeButSuffix (name other : String) : Prop :=
  ∃ stem, ∃ suffix ∈ binSuffixes, ∃ suffix' ∈ binSuffixes,
    name = stem ++ suffix ∧ other = stem ++ suffix'

/-- No suffix of bins ends with another one. -/
theorem eq_of_append_binSuffix {stem stem' suffix suffix' : String} (known : suffix ∈ binSuffixes)
    (known' : suffix' ∈ binSuffixes) (same : stem ++ suffix = stem' ++ suffix') : stem = stem' := by
  apply String.toList_injective
  have backwards := congrArg (fun s => s.toList.reverse) same
  revert backwards
  simp only [binSuffixes, List.mem_cons, List.not_mem_nil, or_false] at known known'
  rcases known with rfl | rfl | rfl <;> rcases known' with rfl | rfl | rfl <;> simp

/-- Two names of bins have the same source exactly if they are alike but for the suffix. -/
theorem IsBinOf.eq_iff {name name' source source' : String} (isBin : IsBinOf name source)
    (isBin' : IsBinOf name' source') : source = source' ↔ AlikeButSuffix name name' := by
  obtain ⟨⟨suffix, known, spelled⟩, -⟩ := isBin
  obtain ⟨⟨suffix', known', spelled'⟩, -⟩ := isBin'
  constructor
  · rintro rfl
    exact ⟨"bin_" ++ source, suffix, known, suffix', known', spelled, spelled'⟩
  · rintro ⟨stem, ending, listed, ending', listed', ends, ends'⟩
    have left := eq_of_append_binSuffix known listed (spelled.symm.trans ends)
    have right := eq_of_append_binSuffix known' listed' (spelled'.symm.trans ends')
    exact String.append_right_inj _ |>.1 (left.trans right.symm)

theorem IsBinOf.unique {name source source' : String} (isBin : IsBinOf name source)
    (isBin' : IsBinOf name source') : source = source' := by
  obtain ⟨suffix, known, spelled⟩ := isBin.spelled
  exact (isBin.eq_iff isBin').2 ⟨_, suffix, known, suffix, known, spelled, spelled⟩

theorem cuts_binPattern_iff {name : String} {pieces : List (List Char)} :
    binPattern.Cuts name.toList pieces ↔
      ∃ source, '\n' ∉ source.toList ∧ ∃ suffix ∈ binSuffixes,
        name = "bin_" ++ source ++ suffix ∧
          pieces = ["bin".toList, ['_'], source.toList, suffix.toList] := by
  constructor
  · rintro ⟨_ | ⟨opens, _ | ⟨underscore, _ | ⟨onLine, _ | ⟨ends, _ | _⟩⟩⟩⟩, whole⟩
    cases List.mem_singleton.1 opens
    cases List.mem_singleton.1 underscore
    obtain ⟨suffix, known, rfl⟩ := List.mem_map.1 ends
    refine ⟨String.ofList _, by rwa [String.toList_ofList], suffix, known, ?_, by simp⟩
    apply String.toList_injective
    simpa using whole.symm
  · rintro ⟨source, onLine, suffix, known, rfl, rfl⟩
    have takes : List.Forall₂ Text.Part.Takes binPattern
        ["bin".toList, ['_'], source.toList, suffix.toList] :=
      .cons (List.mem_singleton_self _) (.cons (List.mem_singleton_self _)
        (.cons onLine (.cons (List.mem_map_of_mem known) .nil)))
    exact ⟨takes, by simp⟩

/-- Either the name is that of a bin, and its source is found, or its form is refused. -/
theorem decode_bin_cases (name : String) (measure : Measure) :
    (∃ source, IsBinOf name source ∧ (binned name measure).decode = .ok ⟨some .bin, source⟩) ∨
    (¬ ∃ source, IsBinOf name source) ∧
      (binned name measure).decode = .error (.ofCause (.patternDecode
        ("Binned field " ++ Text.quoted name
          ++ " is not of the form bin_<field>_<start|mid|end>"))) := by
  cases found : binPattern.pieces? name.toList with
  | none =>
      refine .inr ⟨?_, by simp [decode, binned, found]⟩
      rintro ⟨source, ⟨suffix, known, spelled⟩, onLine⟩
      have cut := cuts_binPattern_iff.2 ⟨source, onLine, suffix, known, spelled, rfl⟩
      simpa [found] using cut.isSome_pieces?
  | some pieces =>
      obtain ⟨source, onLine, suffix, known, spelled, rfl⟩ :=
        cuts_binPattern_iff.1 (Text.Pattern.cuts_of_pieces? found)
      exact .inl ⟨source, ⟨⟨suffix, known, spelled⟩, onLine⟩, by simp [decode, binned, found]⟩

theorem channelDef_binned_eq_ok_iff {name : String} {measure : Measure} {c : ChannelDef} :
    (binned name measure).channelDef = .ok c ↔
      ∃ source, IsBinOf name source ∧ c = ⟨measure, source, none, some true⟩ := by
  rw [channelDef_eq_ok_iff]
  rcases decode_bin_cases name measure with ⟨source, isBin, decoded⟩ | ⟨unlike, decoded⟩
  · constructor
    · rintro ⟨d, again, rfl⟩
      cases decoded.symm.trans again
      exact ⟨source, isBin, rfl⟩
    · rintro ⟨source', isBin', rfl⟩
      cases isBin.unique isBin'
      exact ⟨_, decoded, rfl⟩
  · refine iff_of_false (by simp [decoded]) ?_
    rintro ⟨source, isBin, -⟩
    exact unlike ⟨source, isBin⟩

/-- Only a binned field is shown as one. -/
theorem bin_eq_none_of_channelDef {f : Field} {c : ChannelDef}
    (other : f.aggregate = true ∨ f.bin = false) (shown : f.channelDef = .ok c) :
    c.bin = none := by
  obtain ⟨d, decoded, rfl⟩ := channelDef_eq_ok_iff.1 shown
  obtain ⟨name, aggregate, bin, measure⟩ := f
  cases aggregate with
  | true =>
      rcases decode_aggregate_cases name bin measure with ⟨op, source, -, same⟩ | ⟨-, same⟩
      · cases same.symm.trans decoded
        rfl
      · cases same.symm.trans decoded
  | false =>
      obtain rfl := other.resolve_left nofun
      cases decoded
      rfl

/-- What a definition tells of the binned field that it shows. -/
structure IsBinDef (c : ChannelDef) (name : String) (measure : Measure) : Prop where
  /-- The measure and all of the name but the suffix. -/
  alike : ∀ name' measure' c', (binned name' measure').channelDef = .ok c' →
    (c = c' ↔ measure = measure' ∧ AlikeButSuffix name name')
  /-- That the field is not an aggregated one and not one without operation. -/
  apart : ∀ (f : Field) c', f.aggregate = true ∨ f.bin = false → f.channelDef = .ok c' → c ≠ c'

theorem isBinDef {name : String} {measure : Measure} {c : ChannelDef}
    (shown : (binned name measure).channelDef = .ok c) : IsBinDef c name measure := by
  obtain ⟨source, isBin, rfl⟩ := channelDef_binned_eq_ok_iff.1 shown
  constructor
  · intro name' measure' c' shown'
    obtain ⟨source', isBin', rfl⟩ := channelDef_binned_eq_ok_iff.1 shown'
    rw [← isBin.eq_iff isBin']
    simp
  · rintro f c' other shown' rfl
    exact nomatch bin_eq_none_of_channelDef other shown'

/-- **A binned name is what stands between the prefix and a suffix.** It is taken apart exactly if
it is made of the prefix, a single line and a suffix, none of which overlaps another; the line is
then the only one of which it can be made, and the source. Any other name is refused for its form.
The definition of the channel forgets the suffix and nothing else, and no other kind of field has
it. -/
theorem binned_between_prefix_and_suffix (name : String) (measure : Measure) :
    ((∃ d, (binned name measure).decode = .ok d) ↔ ∃ source, IsBinOf name source) ∧
      (∀ source source', IsBinOf name source → IsBinOf name source' → source = source') ∧
      (∀ source, IsBinOf name source →
        (binned name measure).decode = .ok ⟨some .bin, source⟩) ∧
      (∀ e, (binned name measure).decode = .error e →
        e = .ofCause (.patternDecode ("Binned field " ++ Text.quoted name
          ++ " is not of the form bin_<field>_<start|mid|end>"))) ∧
      ∀ c, (binned name measure).channelDef = .ok c → IsBinDef c name measure := by
  rcases decode_bin_cases name measure with ⟨source, isBin, decoded⟩ | ⟨unlike, decoded⟩
  · refine ⟨iff_of_true ⟨_, decoded⟩ ⟨source, isBin⟩, fun _ _ => IsBinOf.unique, ?_,
      by simp [decoded], fun _ => isBinDef⟩
    intro source' isBin'
    rw [isBin'.unique isBin, decoded]
  · refine ⟨iff_of_false (by simp [decoded]) unlike, fun _ _ => IsBinOf.unique, ?_, ?_,
      fun _ => isBinDef⟩
    · intro source isBin
      exact absurd ⟨source, isBin⟩ unlike
    · intro e again
      exact (Except.error.inj (decoded.symm.trans again)).symm

example : (binned "bin__start" .nominal).decode = .ok ⟨some .bin, ""⟩ := rfl
example : (binned "bin_start" .nominal).decode.isOk = false := rfl
example : (binned "bin_bin_x_end_mid" .nominal).decode = .ok ⟨some .bin, "bin_x_end"⟩ := rfl

end Field

end ChartBinding

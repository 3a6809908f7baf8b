import Mathlib
import SqlAssembler.CommandLine.Arguments
import SqlAssembler.Proofs.Results

/-!
# Spellings of options

An option takes its value from the next argument, or from its own argument after
an equals sign. Both spellings are read alike wherever a new token is read, as
long as the value does not start with the option and an equals sign itself: the
attached value loses every such start, and a value in the next argument keeps
it.
-/

namespace SqlAssembler
namespace CommandLine

/-!
## Options with a value
-/

inductive ValuedOption where
  | config
  | aggregate
  deriving DecidableEq, Repr

namespace ValuedOption

def name : ValuedOption → String
  | config => "--config"
  | aggregate => "--aggregate"

/-- What stands in front of an attached value. -/
def lead (option : ValuedOption) : List Char :=
  option.name.toList ++ ['=']

def attach (option : ValuedOption) (value : String) : String :=
  option.name ++ "=" ++ value

/-- The value without the starts that it loses where it is attached. -/
def stripped (option : ValuedOption) (value : String) : String :=
  String.ofList (dropRepeated option.lead value.toList)

def token : ValuedOption → Option String → Token
  | config, value => .config value
  | aggregate, value => .aggregate value

def set : ValuedOption → Options → String → Except Fault Options
  | config, options, path => .ok { options with config := some path }
  | aggregate, options, text => options.setAggregate text

variable (option : ValuedOption) (value : String)

theorem lead_ne_nil : option.lead ≠ [] := by
  simp [lead]

theorem toList_attach :
    (option.attach value).toList = option.lead ++ value.toList := by
  simp [attach, lead]

theorem attach_ne {text : String} (h : ¬ option.lead <+: text.toList) :
    option.attach value ≠ text := by
  rintro rfl
  rw [toList_attach] at h
  exact h (List.prefix_append _ _)

end ValuedOption

/-!
## Repeated starts
-/

theorem dropRepeated_append {lead : List Char} (h : lead ≠ [])
    (cs : List Char) :
    dropRepeated lead (lead ++ cs) = dropRepeated lead cs := by
  rw [dropRepeated, if_pos ⟨h, List.prefix_append _ _⟩, List.drop_left]

theorem length_dropRepeated_le (lead cs : List Char) :
    (dropRepeated lead cs).length ≤ cs.length := by
  fun_induction dropRepeated lead cs with
  | case1 cs h ih =>
      rw [List.length_drop] at ih
      omega
  | case2 cs h => exact Nat.le_refl _

theorem dropRepeated_eq_self_iff {lead : List Char} (h : lead ≠ [])
    {cs : List Char} : dropRepeated lead cs = cs ↔ ¬ lead <+: cs := by
  constructor
  · rintro hself ⟨rest, rfl⟩
    rw [dropRepeated_append h] at hself
    have hle := length_dropRepeated_le lead rest
    have hpos := List.length_pos_iff.mpr h
    rw [hself, List.length_append] at hle
    omega
  · intro hnot
    rw [dropRepeated, if_neg fun hstart => hnot hstart.2]

theorem ValuedOption.stripped_eq_self_iff {option : ValuedOption}
    {value : String} :
    option.stripped value = value ↔ ¬ option.lead <+: value.toList := by
  rw [stripped, ← dropRepeated_eq_self_iff option.lead_ne_nil,
    ← String.toList_inj, String.toList_ofList]

/-!
## Tokens
-/

namespace Token

def waits : Token → Bool
  | config none | aggregate none => true
  | _ => false

theorem ofText_name (option : ValuedOption) :
    ofText option.name = option.token none := by
  cases option <;> rfl

theorem attached?_attach (option : ValuedOption) (value : String) :
    attached? option.name (option.attach value) =
      some (option.stripped value) := by
  have hstart : option.lead <+: (option.attach value).toList := by
    rw [ValuedOption.toList_attach]
    exact List.prefix_append _ _
  have hvalue : dropRepeated option.lead (option.attach value).toList =
      dropRepeated option.lead value.toList := by
    rw [ValuedOption.toList_attach, dropRepeated_append option.lead_ne_nil]
  rw [attached?, ← ValuedOption.lead, if_pos hstart, hvalue]
  rfl

theorem ofText_attach (option : ValuedOption) (value : String) :
    ofText (option.attach value) = option.token (some (option.stripped value))
    := by
  have hshort : option.attach value ≠ "-h" :=
    option.attach_ne value (by cases option <;> decide)
  have hlong : option.attach value ≠ "--help" :=
    option.attach_ne value (by cases option <;> decide)
  have hconfig : option.attach value ≠ "--config" :=
    option.attach_ne value (by cases option <;> decide)
  have haggregate : option.attach value ≠ "--aggregate" :=
    option.attach_ne value (by cases option <;> decide)
  have hattached := attached?_attach option value
  rw [ofText, if_neg (not_or.mpr ⟨hshort, hlong⟩), if_neg hconfig,
    if_neg haggregate]
  cases option with
  | config =>
      rw [ValuedOption.name] at hattached
      rw [hattached]
      rfl
  | aggregate =>
      have hother : attached? "--config" (ValuedOption.aggregate.attach value) =
          none := by
        rw [attached?]
        apply if_neg
        rw [ValuedOption.toList_attach]
        intro h
        have htaken := List.prefix_iff_eq_take.mp h
        exact absurd htaken (by simp [ValuedOption.lead, ValuedOption.name])
      rw [ValuedOption.name] at hattached
      rw [hother, hattached]
      rfl

end Token

/-!
## Reading on
-/

def endsToken : List String → Bool
  | [] => true
  | [text] => !(Token.ofText text).waits
  | text :: value :: rest =>
      if (Token.ofText text).waits then endsToken rest
      else endsToken (value :: rest)

namespace Options

theorem read_name (options : Options) (option : ValuedOption) (value : String)
    (rest : List String) :
    options.read (option.name :: value :: rest) =
      (option.set options value >>= fun options => options.read rest) := by
  rw [read, Token.ofText_name]
  cases option <;> rfl

theorem read_attach (options : Options) (option : ValuedOption)
    (value : String) (rest : List String) :
    options.read (option.attach value :: rest) =
      (option.set options (option.stripped value) >>= fun options =>
        options.read rest) := by
  rw [read.eq_def]
  dsimp only
  rw [Token.ofText_attach]
  cases option <;> rfl

theorem read_cons_congr {text : String} {left right : List String}
    (hwaits : (Token.ofText text).waits = false)
    (hsame : ∀ options : Options, options.read left = options.read right)
    (options : Options) :
    options.read (text :: left) = options.read (text :: right) := by
  rw [read.eq_def, read.eq_def options (text :: right)]
  dsimp only
  cases htoken : Token.ofText text with
  | help => rfl
  | unknown => rfl
  | path => simp only [hsame]
  | config value =>
      cases value with
      | none => exact absurd hwaits (by simp [htoken, Token.waits])
      | some path => exact hsame _
  | aggregate value =>
      cases value with
      | none => exact absurd hwaits (by simp [htoken, Token.waits])
      | some text => simp only [hsame]

theorem read_cons_cons_congr {text : String} {left right : List String}
    (hwaits : (Token.ofText text).waits = true)
    (hsame : ∀ options : Options, options.read left = options.read right)
    (value : String) (options : Options) :
    options.read (text :: value :: left) =
      options.read (text :: value :: right) := by
  rw [read.eq_def, read.eq_def options (text :: value :: right)]
  dsimp only
  cases htoken : Token.ofText text with
  | help => rfl
  | unknown => rfl
  | path => exact absurd hwaits (by simp [htoken, Token.waits])
  | config attached =>
      cases attached with
      | none => exact hsame _
      | some path => exact absurd hwaits (by simp [htoken, Token.waits])
  | aggregate attached =>
      cases attached with
      | none => simp only [hsame]
      | some other => exact absurd hwaits (by simp [htoken, Token.waits])

theorem read_append_congr {before left right : List String}
    (hends : endsToken before = true)
    (hsame : ∀ options : Options, options.read left = options.read right)
    (options : Options) :
    options.read (before ++ left) = options.read (before ++ right) := by
  fun_induction endsToken before generalizing options with
  | case1 => exact hsame options
  | case2 text =>
      exact read_cons_congr (by simpa using hends) hsame options
  | case3 text value rest hwaits ih =>
      exact read_cons_cons_congr hwaits (ih hends) value options
  | case4 text value rest hwaits ih =>
      exact read_cons_congr (by simpa using hwaits) (ih hends) options

end Options

/-!
## Values that were read
-/

theorem eq_cut_of_ne_nil {c : Char} {cs : List Char}
    (h : cs.dropWhile (· ≠ c) ≠ []) :
    cs = cs.takeWhile (· ≠ c) ++ c :: (cs.dropWhile (· ≠ c)).drop 1 := by
  induction cs with
  | nil => exact absurd rfl h
  | cons d cs ih =>
      by_cases hd : d = c
      · simp [hd]
      · have hrest : cs.dropWhile (· ≠ c) ≠ [] := by
          simpa [hd] using h
        simpa [hd] using ih hrest

theorem toList_eq_of_readAggregate {text : String} {read : String × String}
    (h : readAggregate text = .ok read) :
    text.toList = read.1.toList ++ ':' :: read.2.toList := by
  simp only [readAggregate] at h
  split at h
  · cases h
  · rename_i hparts
    cases h
    simp only [String.toList_ofList]
    apply eq_cut_of_ne_nil
    intro hnil
    rw [hnil] at hparts
    simp at hparts

theorem eq_of_readAggregate_error {text : String} {fault : Fault}
    (h : readAggregate text = .error fault) : fault = .badAggregate text := by
  simp only [readAggregate] at h
  split at h
  · cases h
    rfl
  · cases h

theorem readAggregate_injective : Function.Injective readAggregate := by
  intro text other hsame
  cases hread : readAggregate text with
  | error fault =>
      have hfault := eq_of_readAggregate_error hread
      rw [hsame] at hread
      have hother := eq_of_readAggregate_error hread
      exact Fault.badAggregate.inj (hfault.symm.trans hother)
  | ok read =>
      have htext := toList_eq_of_readAggregate hread
      rw [hsame] at hread
      have hother := toList_eq_of_readAggregate hread
      exact String.toList_inj.mp (htext.trans hother.symm)

theorem read_single (option : ValuedOption) (value : String) :
    Options.none.read [option.name, value, "q"] =
      (option.set Options.none value).map fun options =>
        .render ⟨options.config, options.aggregate, "q"⟩ := by
  rw [Options.read_name]
  cases option with
  | config => rfl
  | aggregate =>
      rw [ValuedOption.set, Options.setAggregate]
      cases readAggregate value <;> rfl

theorem read_single_injective (option : ValuedOption) :
    Function.Injective fun value =>
      Options.none.read [option.name, value, "q"] := by
  intro value other hsame
  simp only [read_single] at hsame
  cases option with
  | config =>
      cases hsame
      rfl
  | aggregate =>
      apply readAggregate_injective
      simp only [ValuedOption.set, Options.setAggregate] at hsame
      cases hvalue : readAggregate value <;>
        cases hother : readAggregate other <;>
        simp_all [Except.map]

/-!
## The two spellings
-/

/-- The attached value is read as the next argument would be, without the
starts that it loses. -/
theorem read_attached (option : ValuedOption) (value : String)
    {before : List String} (hends : endsToken before = true)
    (after : List String) :
    Command.read ("render" :: (before ++ option.attach value :: after)) =
      Command.read ("render" ::
        (before ++ option.name :: option.stripped value :: after)) := by
  apply Options.read_append_congr hends
  intro options
  rw [Options.read_attach, Options.read_name]

/-- Whatever stands before and after it, the attached value is read as the next
argument would be, without the starts that it loses; and it is read like the
value itself if and only if there is nothing to lose. -/
theorem spellings_agree_iff (option : ValuedOption) (value : String) :
    (∀ before after, endsToken before = true →
      Command.read ("render" :: (before ++ option.attach value :: after)) =
        Command.read ("render" ::
          (before ++ option.name :: option.stripped value :: after))) ∧
    ((∀ before after, endsToken before = true →
      Command.read ("render" :: (before ++ option.attach value :: after)) =
        Command.read ("render" ::
          (before ++ option.name :: value :: after))) ↔
      ¬ option.lead <+: value.toList) := by
  refine ⟨fun before after hends => read_attached option value hends after, ?_⟩
  rw [← ValuedOption.stripped_eq_self_iff]
  constructor
  · intro hagree
    have hsingle := hagree [] ["q"] rfl
    rw [read_attached option value rfl ["q"]] at hsingle
    exact read_single_injective option hsingle
  · intro hself before after hends
    rw [read_attached option value hends after, hself]

/-- A value may look like another option. -/
theorem spellings_agree_of_other_option :
    Command.read ["render", "--config=--aggregate=a:b", "q"] =
      Command.read ["render", "--config", "--aggregate=a:b", "q"] :=
  (spellings_agree_iff .config "--aggregate=a:b").2.mpr (by decide) [] ["q"] rfl

/-- A value that looks like its own option is read in two ways. -/
theorem spellings_differ_of_own_option :
    Command.read ["render", "--config=--config=c.toml", "q.toml"] ≠
      Command.read ["render", "--config", "--config=c.toml", "q.toml"] := by
  have hattached :
      Command.read ["render", "--config=--config=c.toml", "q.toml"] =
        .ok (.render ⟨some "c.toml", none, "q.toml"⟩) := by
    cbv
  have hseparate :
      Command.read ["render", "--config", "--config=c.toml", "q.toml"] =
        .ok (.render ⟨some "--config=c.toml", none, "q.toml"⟩) := by
    cbv
  rw [hattached, hseparate]
  simp

end CommandLine
end SqlAssembler

import Mathlib.Logic.Function.Basic
import SchedulerHost.Config.Wire
import SchedulerHost.Proofs.Json.Records

/-!
# A component configuration survives its text

Every part of a configuration is read as it was written, from the strings up to the whole.

* `Profile.decodes`, `AlgorithmSource.decodes`, `Extender.decodes`, `Component.decodes`: one step
  for each kind of part.
* **Survival** (`Component.survives_text`): the text of a configuration is read as the
  configuration, so different configurations have different texts, and a text that was read and
  written again stays as it is.
-/

namespace SchedulerHost.Config

open Json (Decodes Reader decodes_string decodes_list decodes_bool decodes_uint32 decodes_uint64
  decodes_int64)
open Json.Schema (Written)

theorem Profile.decodes (p : Profile) : Decodes read p.toJson p := by
  have written : Written schema (p.schedulerName, p.plugins, ())
      [("schedulerName", .str p.schedulerName), ("plugins", .arr (p.plugins.map .str))] :=
    .given (decodes_string _) (.given (decodes_list fun s _ => decodes_string s) .nil)
  exact (written.decodes (by decide) _).map _

theorem PolicySource.decodes (source : PolicySource) : Decodes read source.toJson source := by
  cases source with
  | file path =>
    have written : Written fileSchema (path, ()) [("path", .str path)] :=
      .given (decodes_string _) .nil
    exact Json.Variant.decodes_tagged (v := variants[0]) rfl ((written.decodes (by decide) _).map _)
  | configMap space name =>
    have written : Written configMapSchema (space, name, ())
        [("namespace", .str space), ("name", .str name)] :=
      .given (decodes_string _) (.given (decodes_string _) .nil)
    exact Json.Variant.decodes_tagged (v := variants[1]) rfl ((written.decodes (by decide) _).map _)

theorem AlgorithmSource.decodes (source : AlgorithmSource) :
    Decodes read source.toJson source := by
  cases source with
  | provider name =>
    exact Json.Variant.decodes_tagged (v := variants[0]) rfl ((decodes_string name).map _)
  | policy source =>
    exact Json.Variant.decodes_tagged (v := variants[1]) rfl (source.decodes.map _)

/-- A verb may be absent. -/
theorem decodes_optionalString (verb : Option String) :
    Decodes Reader.string.optional (optionalString verb) verb := by
  cases verb with
  | none => exact Json.decodes_none _
  | some s =>
    refine Json.decodes_some (decodes_string s) ?_
    simp [optionalString, Json.Value.chars, Json.quote]

theorem Extender.decodes (e : Extender) : Decodes read e.toJson e := by
  have written : Written schema
      (e.urlPrefix, e.filterVerb, e.prioritizeVerb, e.bindVerb, e.weight, e.httpTimeoutSeconds,
        e.enableHttps, e.ignorable, ())
      [("urlPrefix", .str e.urlPrefix), ("filterVerb", optionalString e.filterVerb),
        ("prioritizeVerb", optionalString e.prioritizeVerb),
        ("bindVerb", optionalString e.bindVerb), ("weight", .int e.weight.toInt),
        ("httpTimeoutSeconds", .int e.httpTimeoutSeconds.toNat),
        ("enableHttps", .bool e.enableHttps), ("ignorable", .bool e.ignorable)] :=
    .given (decodes_string _) (.given (decodes_optionalString _)
      (.given (decodes_optionalString _) (.given (decodes_optionalString _)
        (.given (decodes_int64 _) (.given (decodes_uint64 _)
          (.given (decodes_bool _) (.given (decodes_bool _) .nil)))))))
  exact (written.decodes (by decide) _).map _

theorem Component.decodes (c : Component) : Decodes read c.toJson c := by
  have written : Written schema
      (c.profiles, c.algorithmSource, c.disablePreemption, c.percentageOfNodesToScore,
        c.bindTimeoutSeconds, c.podInitialBackoffSeconds, c.podMaxBackoffSeconds, c.extenders, ())
      [("profiles", profilesJson c.profiles), ("algorithmSource", c.algorithmSource.toJson),
        ("disablePreemption", .bool c.disablePreemption),
        ("percentageOfNodesToScore", .int c.percentageOfNodesToScore.toNat),
        ("bindTimeoutSeconds", .int c.bindTimeoutSeconds.toNat),
        ("podInitialBackoffSeconds", .int c.podInitialBackoffSeconds.toNat),
        ("podMaxBackoffSeconds", .int c.podMaxBackoffSeconds.toNat),
        ("extenders", extendersJson c.extenders)] :=
    .given (decodes_list fun p _ => p.decodes) (.given c.algorithmSource.decodes
      (.given (decodes_bool _) (.given (decodes_uint32 _) (.given (decodes_uint64 _)
        (.given (decodes_uint64 _) (.given (decodes_uint64 _)
          (.given (decodes_list fun e _ => e.decodes) .nil)))))))
  exact (written.decodes (by decide) _).map _

/-- What is written of a configuration is read as that configuration. -/
theorem Component.parse_render (c : Component) : parse c.render = .ok c :=
  c.decodes.document

/-- What is written of a configuration that was read from a text. -/
def Component.rewrite (text : String) : Except Json.Report String :=
  (parse text).map render

/-- **Survival.** The text of a configuration is read as the configuration, whatever it holds. So
different configurations have different texts, and whatever text is accepted, what is written of it
stays as it is when it is read and written again. -/
theorem Component.survives_text :
    (∀ c : Component, parse c.render = .ok c) ∧ Function.Injective render ∧
      ∀ text, (rewrite text).bind rewrite = rewrite text := by
  refine ⟨parse_render, ?_, ?_⟩
  · intro c d same
    have read := parse_render c
    rw [same, parse_render d, Except.ok.injEq] at read
    exact read.symm
  · intro text
    cases read : parse text with
    | error report => simp [rewrite, read, Except.map, Except.bind]
    | ok c => simp [rewrite, read, Except.map, Except.bind, parse_render]

example : (Component.parse "[[], \x7b\"provider\" : \"\\u0041\"\x7d ]").toOption =
    some { Component.standard with profiles := [], algorithmSource := .provider "A" } := by
  decide +kernel

end SchedulerHost.Config

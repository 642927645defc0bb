import TemplateShare.Registry

/-! # Documents

A `DataTemplate` is what is shared: datasets and the template that they have in common. A document
whose only dataset has the default name has a short form of its own in every notation
(`DataTemplate.isSingle`). -/

namespace TemplateShare

/-- **A document**: its datasets and the template they share. -/
structure DataTemplate where
  registry : Registry := .initial
  template : String := ""
deriving DecidableEq, Repr, Inhabited

namespace DataTemplate

/-- A document with one dataset of the default name. -/
def single (data vars template : String) : DataTemplate :=
  ⟨.first ⟨Dataset.defaultName, ⟨data, vars⟩⟩ [], template⟩

/-- The datasets in order. -/
def datasets (dt : DataTemplate) : List Dataset := dt.registry.datasets

/-- The texts of the active dataset. -/
def activeBuffers (dt : DataTemplate) : Buffers := dt.registry.active.buffers

/-- **The short form** applies where the only dataset has the default name. -/
def isSingle (dt : DataTemplate) : Bool :=
  dt.registry.size == 1 && dt.registry.activeName == Dataset.defaultName

end DataTemplate

end TemplateShare

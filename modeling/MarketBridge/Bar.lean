import MarketBridge.Double

/-!
# `Bar` — one interval of market data and its columns

A bar holds the prices and volumes of one interval. The engine stores bars column by column;
`Field` names the six float columns, and `Bar.get` reads the value that a bar puts into one.
-/

namespace MarketBridge

/-- One interval of market data. -/
structure Bar where
  timestamp : Int64
  opening : Double
  high : Double
  low : Double
  close : Double
  volume : Double
  buyVolume : Double
  deriving DecidableEq

/-- A bar whose buy volume is not known. -/
def Bar.ofPrices (timestamp : Int64) (opening high low close volume : Double) : Bar :=
  ⟨timestamp, opening, high, low, close, volume, 0.0⟩

/-- The bar with the given buy volume, `0` when there is none. -/
def Bar.withBuyVolume (bar : Bar) (buyVolume : Option Double) : Bar :=
  { bar with buyVolume := buyVolume.getD 0.0 }

/-- A bar that stayed at one price, with volume `1`. -/
def Bar.flat (timestamp : Int64) (price : Double) : Bar :=
  .ofPrices timestamp price price price price 1.0

/-- The bar of all zeros. -/
def Bar.zero : Bar :=
  .ofPrices 0 0.0 0.0 0.0 0.0 0.0

/-- A float column of the engine. -/
inductive Field
  | opening
  | high
  | low
  | close
  | volume
  | buyVolume
  deriving DecidableEq, Repr

namespace Field

/-- All fields in the order of their numbers. -/
def all : List Field :=
  [.opening, .high, .low, .close, .volume, .buyVolume]

/-- The number that stands for the field. -/
def index : Field → UInt8
  | opening => 0
  | high => 1
  | low => 2
  | close => 3
  | volume => 4
  | buyVolume => 5

/-- The name of the field in documents. -/
def name : Field → String
  | opening => "open"
  | high => "high"
  | low => "low"
  | close => "close"
  | volume => "volume"
  | buyVolume => "buy_volume"

/-- The field as diagnostics show it. -/
def describe : Field → String
  | opening => "Open"
  | high => "High"
  | low => "Low"
  | close => "Close"
  | volume => "Volume"
  | buyVolume => "BuyVolume"

theorem mem_all (f : Field) : f ∈ all := by
  cases f <;> decide

end Field

/-- The value that the bar puts into a column. -/
def Bar.get (bar : Bar) : Field → Double
  | .opening => bar.opening
  | .high => bar.high
  | .low => bar.low
  | .close => bar.close
  | .volume => bar.volume
  | .buyVolume => bar.buyVolume

end MarketBridge

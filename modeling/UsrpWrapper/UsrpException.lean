import Mathlib.Data.Rat.Floor

/-!
# Exceptions of the wrapper

`UsrpException` (`usrp_exception.hpp`) is a `std::runtime_error` that carries a
text.  The model keeps one constructor per text and the values the text quotes;
`UsrpException.what` is the text itself.

A call can also end in other ways, collected in `Fault`:

* a plain `std::runtime_error` (`RuntimeError`), which only the sample transfers
  of `RfNocFullDuplexGraph` throw;
* an exception of UHD itself (`Fault.uhd`);
* an access to a `std::vector` outside its bounds (`Fault.outOfBounds`), which
  C++ leaves undefined.  No handler of the wrapper catches it, so the model ends
  the run there.
-/

namespace UsrpWrapper

/-- `std::to_string` of a floating point number: `%f`, six decimals. -/
def toStringF (x : ℚ) : String :=
  let micros := (round (|x| * 1000000)).toNat
  let fraction := toString (micros % 1000000)
  (if x < 0 then "-" else "") ++ toString (micros / 1000000) ++ "." ++
    String.ofList (List.replicate (6 - fraction.length) '0') ++ fraction

/-- `bi::UsrpException`, one constructor per text of the source. -/
inductive UsrpException where
  -- replay_config.cpp
  | streamCountNotSet
  | repetitionPeriodTooSmall
  | multiStreamRepetitions
  | tooManySamplesInBuffer
  | tooManyReplayRequests
  | recordingNotStarted
  | replayingNotStarted
  | cannotClearRecordBuffer
  -- config.cpp
  | decimationNotSupported
  | samplingRateNotEvenFraction (masterClockRate : ℚ)
  | txOffsetTooSmall
  | txNumRepetitionsNotPositive
  | txRepetitionsNotWordAligned
  | rxNumRepetitionsZero
  | rxRepetitionPeriodTooSmall
  | rxRepetitionPeriodNotWordAligned
  | rxNumSamplesNotWordAligned
  | rxOffsetTooSmall
  | noSignalProvided
  | signalCountMismatch
  | signalTooLong (maxSamples : ℕ)
  | signalLengthsDiffer
  | signalContainsNan
  | invalidNumTxStreams (noTxStreams : ℤ)
  | invalidNumRxStreams (noRxStreams : ℤ)
  | signalTooShort
  | periodNotWordAligned
  -- stream_mapper.cpp
  | mappingLengthMismatch
  | mappingInvalidAntenna
  | streamIdxOutOfBounds
  -- rfnoc_blocks.cpp
  | antennaNotAvailable
  -- rf_configuration.cpp
  | numAntennasUnknown
  | rfConfigMismatch
  -- full_duplex_rfnoc_graph.cpp
  | invalidSyncSource (type : String)
  | wrongNumTxAntennas (requested stored : ℕ)
  | wrongNumRxAntennas
  | targetStreamTimeTooClose (streamTime currentTime : ℚ)
  | replayError (eventCode : ℕ)
  | recordError (strerror : String)
  | noEndOfBurst
  deriving DecidableEq

/-- The text of the exception.  The mismatch of two RF configs prints both
configs after this text. -/
def UsrpException.what : UsrpException → String
  | .streamCountNotSet => "Stream count not set!"
  | .repetitionPeriodTooSmall => "RepetitionPeriod must be >= numSamples"
  | .multiStreamRepetitions => "Multi-Stream with Repetitions not implemented!"
  | .tooManySamplesInBuffer => "Attempting to store too many samples in buffer!"
  | .tooManyReplayRequests => "Too many replay requests!"
  | .recordingNotStarted => "Recording not started!"
  | .replayingNotStarted => "Replaying not started!"
  | .cannotClearRecordBuffer => "Cannot clear the record buffer!"
  | .decimationNotSupported => "Decimation not supported by device!"
  | .samplingRateNotEvenFraction masterClockRate =>
      "Sampling rate must be an even fraction of " ++ toStringF masterClockRate
  | .txOffsetTooSmall =>
      "Invalid TX streaming config: the offset of the new config is too small."
  | .txNumRepetitionsNotPositive => "Number of repetitions must be > 0"
  | .txRepetitionsNotWordAligned =>
      "When using repetitions, the length of the TX signal must be word-aligned!"
  | .rxNumRepetitionsZero => "Num Repetitions needs to be at least 1!"
  | .rxRepetitionPeriodTooSmall => "Repetition Period is smaller than record length!"
  | .rxRepetitionPeriodNotWordAligned =>
      "When using repetitions, repPeriod must be word-aligned (8)"
  | .rxNumSamplesNotWordAligned =>
      "When using repetitions, numSamples must be word-aligned (8)"
  | .rxOffsetTooSmall =>
      "Invalid RX streaming config: the offset of the new config is too small."
  | .noSignalProvided => "No signal provided."
  | .signalCountMismatch => "The number of signals must match the number of tx streams."
  | .signalTooLong maxSamples =>
      "Transmitted signal length must not be larger than " ++ toString maxSamples
  | .signalLengthsDiffer => "The antenna signals need to have the same length."
  | .signalContainsNan => "The antenna signal contains nan values!"
  | .invalidNumTxStreams noTxStreams =>
      "You provided " ++ toString noTxStreams ++
        "Tx Streams. Number of Streams must be within interval [1,4]."
  | .invalidNumRxStreams noRxStreams =>
      "You provided " ++ toString noRxStreams ++
        "Rx Streams. Number of Streams must be in interval [1,4]."
  | .signalTooShort => "Signal is too short and cannot be shortened further"
  | .periodNotWordAligned => "Cannot use repetions with not word-aligned period"
  | .mappingLengthMismatch => "Mapping length does not equal antenna count"
  | .mappingInvalidAntenna => "Mapping contains an invalid antenna idx!"
  | .streamIdxOutOfBounds => "Stream Idx out of bounds"
  | .antennaNotAvailable => "Requested Antenna Index not available"
  | .numAntennasUnknown => "Cannot set sample rate without knowning number of antennas"
  | .rfConfigMismatch => "Request and actual Rf Config mismatch:\n "
  | .invalidSyncSource type => "Invalid sync source " ++ type
  | .wrongNumTxAntennas requested stored =>
      "Streaming with wrong number of TX antennas! " ++ toString requested ++ " " ++
        toString stored
  | .wrongNumRxAntennas => "Downloading with wrong number of RX antennas!"
  | .targetStreamTimeTooClose streamTime currentTime =>
      "Target stream time is too close. Consider increasing system.baseTimeOffset " ++
        "(streamTime: )" ++ toStringF streamTime ++ " currentTime: " ++ toStringF currentTime
  | .replayError eventCode =>
      "Error occured at data replaying with event code: " ++ toString eventCode
  | .recordError strerror => "Error at recording: " ++ strerror
  | .noEndOfBurst => "I did not receive an end_of_burst."

/-- The plain `std::runtime_error`s of `full_duplex_rfnoc_graph.cpp`. -/
inductive RuntimeError where
  | invalidChannelCount
  | txStreamer (eventCode : ℕ)
  | rxStreamer (strerror : String)
  deriving DecidableEq

/-- The text of the error. -/
def RuntimeError.what : RuntimeError → String
  | .invalidChannelCount => "Invalid channel count!"
  | .txStreamer eventCode =>
      "Error occoured at Tx Streamer with event code: " ++ toString eventCode
  | .rxStreamer strerror => "error at Rx streamer " ++ strerror

/-- The ways a call can end without returning. -/
inductive Fault where
  | usrp (e : UsrpException)
  | runtime (e : RuntimeError)
  /-- An exception UHD throws. -/
  | uhd
  /-- A vector element is read outside the vector: undefined behaviour. -/
  | outOfBounds
  deriving DecidableEq

end UsrpWrapper

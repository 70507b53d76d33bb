import AmxBackend.Memory
import AmxBackend.Ggml
import AmxBackend.Simd
import AmxBackend.Pack
import AmxBackend.Layout
import AmxBackend.Compensation
import AmxBackend.PackWeights
import AmxBackend.TileConfig
import AmxBackend.TileBytes
import AmxBackend.Kernels
import AmxBackend.Buffer
import AmxBackend.Dispatch
import AmxBackend.Parallel
import AmxBackend.Runtime

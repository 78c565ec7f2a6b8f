import RouletteStrategy.Catalog.Basic

/-! # The catalog of templates -/

namespace RouletteStrategy.Catalog

def templates : List Template := [
  { name := "Conexão de Cores SOFIA"
    slug := "sofia-conexao-cores-v1"
    description := "Estratégia baseada em tendência de cor em janela recente."
    category := "colors_trend"
    tags := ["cores", "tendência", "builder"]
    nodes := [
      trigger 30,
      condition "cond_trend_red" "trend" "Tendência Vermelho"
        [("evento", .str "vermelho"), ("janela", .int 10), ("frequenciaMinima",
          .float (Binary64.ofRatio false 7 10))],
      condition "cond_trend_black" "trend" "Tendência Preto"
        [("evento", .str "preto"), ("janela", .int 10), ("frequenciaMinima",
          .float (Binary64.ofRatio false 7 10))],
      logic "logic_or" .or "Cor Quente (OR)",
      signal "signal_cores" "Gerar Sinal Conexão de Cores"
        "Tendência de cor detectada na janela recente."]
    connections := [
      ("trigger_1", "cond_trend_red", .success),
      ("trigger_1", "cond_trend_black", .success),
      ("cond_trend_red", "logic_or", .condition),
      ("cond_trend_black", "logic_or", .condition),
      ("logic_or", "signal_cores", .success)] },
  { name := "Dúzias Estatísticas SOFIA"
    slug := "sofia-duzias-estatisticas-v1"
    description := "Aposta na dúzia mais quente em uma janela recente de spins."
    category := "dozens_hot"
    tags := ["duzias", "estatistica", "builder"]
    nodes := [
      trigger 100,
      condition "cond_dozen_hot" "dozen_hot" "Dúzia Quente"
        [("janela", .int 100), ("frequenciaMinima", .int 8)],
      signal "signal_duzias" "Gerar Sinal Dúzias Estatísticas"
        "Dúzia quente detectada na janela recente."]
    connections := [
      ("trigger_1", "cond_dozen_hot", .success),
      ("cond_dozen_hot", "signal_duzias", .success)] },
  { name := "Espelhos e Irmãos SOFIA"
    slug := "sofia-espelhos-irmaos-v1"
    description := "Explora padrões de espelhos e irmãos na roleta."
    category := "mirrors_siblings"
    tags := ["espelhos", "irmaos", "vizinhos", "builder"]
    nodes := [
      trigger 20,
      condition "cond_mirror" "mirror" "Presença de Espelho"
        [("raio", .int 1), ("includeZero", .bool false)],
      condition "cond_neighbors" "neighbors" "Vizinhos do Último Número"
        [("numero", .int 0), ("raio", .int 2), ("includeZero", .bool true)],
      logic "logic_and" .and "Espelhos + Vizinhos",
      signal "signal_espelhos" "Sinal Espelhos e Irmãos"
        "Contexto de espelhos e vizinhos detectado."]
    connections := [
      ("trigger_1", "cond_mirror", .success),
      ("trigger_1", "cond_neighbors", .success),
      ("cond_mirror", "logic_and", .condition),
      ("cond_neighbors", "logic_and", .condition),
      ("logic_and", "signal_espelhos", .success)] },
  { name := "Atlas SOFIA"
    slug := "sofia-atlas-v1"
    description := "Ativa quando algum número do conjunto Atlas aparece na janela recente."
    category := "atlas"
    tags := ["atlas", "conjuntos", "builder"]
    nodes := [
      trigger 10,
      condition "cond_atlas_recent" "recent-in-set" "Atlas - Recente no Conjunto"
        [("janela", .int 5), ("set", .ofInts [13, 14, 15, 16, 17, 18, 31, 32, 33, 34, 35, 36]),
          ("outputNumbers", .ofInts [13, 14, 15, 16, 17, 18, 31, 32, 33, 34, 35, 36])],
      signal "signal_atlas" "Gerar Sinal Atlas"
        "Conjunto Atlas detectado na janela recente."]
    connections := [
      ("trigger_1", "cond_atlas_recent", .success),
      ("cond_atlas_recent", "signal_atlas", .success)] },
  { name := "Trovão SOFIA"
    slug := "sofia-trovao-v1"
    description := "Ativa quando aparecem triggers adjacentes em sequência."
    category := "trovao"
    tags := ["trovao", "sequencia", "builder"]
    nodes := [
      trigger 10,
      condition "cond_trovao_adjacent" "adjacent-in-list" "Trovão - Triggers Adjacentes"
        [("janela", .int 6), ("list", .ofInts [21, 23, 25, 27]), ("circular", .bool false),
          ("outputNumbers", .ofInts [1, 3, 5, 7, 9, 12, 14, 16, 18, 19, 21, 23, 25, 27, 30, 32,
            34, 36])],
      signal "signal_trovao" "Gerar Sinal Trovão"
        "Sequência de triggers do Trovão detectada."]
    connections := [
      ("trigger_1", "cond_trovao_adjacent", .success),
      ("cond_trovao_adjacent", "signal_trovao", .success)] },
  { name := "Irmãos SOFIA"
    slug := "sofia-irmaos-v1"
    description := "Ativa quando um número irmão (11, 22, 33) aparece recentemente."
    category := "irmaos"
    tags := ["irmaos", "vizinhos", "builder"]
    nodes := [
      trigger 10,
      condition "cond_irmaos_recent" "recent-in-set" "Irmãos - Recente no Conjunto"
        [("janela", .int 6), ("set", .ofInts [11, 22, 33]), ("outputNumbers", .ofInts [0, 5, 7, 8,
          9, 10, 11, 16, 18, 22, 23, 24, 28, 29, 30, 33])],
      signal "signal_irmaos" "Gerar Sinal Irmãos"
        "Número irmão detectado recentemente; sugerindo irmãos e vizinhos (inclui 0)."]
    connections := [
      ("trigger_1", "cond_irmaos_recent", .condition),
      ("cond_irmaos_recent", "signal_irmaos", .condition)] },
  { name := "Espelhos SOFIA"
    slug := "sofia-espelhos-v1"
    description := "Deriva o número espelho do último giro e sugere o espelho com vizinhos."
    category := "mirrors"
    tags := ["espelhos", "espelho", "builder"]
    nodes := [
      trigger 10,
      condition "cond_mirror" "mirror" "Espelho do Último Número"
        [("raio", .int 1), ("includeZero", .bool true)],
      signal "signal_espelhos" "Sinal Espelhos SOFIA"
        "Espelho do último número derivado (com vizinhos)."]
    connections := [
      ("trigger_1", "cond_mirror", .success),
      ("cond_mirror", "signal_espelhos", .success)] },
  { name := "Padrões Alternados SOFIA"
    slug := "sofia-padroes-alternados-v1"
    description := "Deriva uma previsão por alternância (cor/paridade) com base no último giro."
    category := "alternation_patterns"
    tags := ["alternados", "alternancia", "builder"]
    nodes := [
      trigger 10,
      condition "cond_alt_color" "alternation" "Alternância por Cor"
        [("eixo", .str "cor")],
      condition "cond_alt_parity" "alternation" "Alternância por Paridade"
        [("eixo", .str "paridade")],
      logic "logic_or" .or "Alternância Ativa (OR)",
      signal "signal_alternados" "Sinal Padrões Alternados"
        "Alternância detectada e conjunto derivado para o próximo giro."]
    connections := [
      ("trigger_1", "cond_alt_color", .success),
      ("trigger_1", "cond_alt_parity", .success),
      ("cond_alt_color", "logic_or", .condition),
      ("cond_alt_parity", "logic_or", .condition),
      ("logic_or", "signal_alternados", .success)] },
  { name := "Padrões de Duplas SOFIA"
    slug := "sofia-padroes-duplas-v1"
    description := "Ativa quando há repetição recente (dupla) e sugere o conjunto derivado."
    category := "double_patterns"
    tags := ["duplas", "repeticao", "builder"]
    nodes := [
      trigger 12,
      condition "cond_double" "repetition" "Dupla por Repetição"
        [("eixo", .str "cor"), ("minRun", .int 2)],
      signal "signal_duplas" "Sinal Padrões de Duplas"
        "Dupla detectada por repetição recente."]
    connections := [
      ("trigger_1", "cond_double", .success),
      ("cond_double", "signal_duplas", .success)] },
  { name := "Reflexão de Números SOFIA"
    slug := "sofia-reflexao-numeros-v1"
    description := "Deriva o espelho do último número e seus vizinhos por raio."
    category := "mirror_numbers"
    tags := ["reflexao", "espelho", "builder"]
    nodes := [
      trigger 10,
      condition "cond_mirror" "mirror" "Espelho do Último Número"
        [("raio", .int 1), ("includeZero", .bool true)],
      signal "signal_reflexao" "Sinal Reflexão de Números"
        "Espelho do último número (com vizinhos) derivado."]
    connections := [
      ("trigger_1", "cond_mirror", .success),
      ("cond_mirror", "signal_reflexao", .success)] },
  { name := "Puxador de Terminais SOFIA"
    slug := "sofia-puxador-terminais-v1"
    description := "Explora padrões de terminais (último dígito) em sequências recentes."
    category := "terminals_pull"
    tags := ["terminais", "puxador", "builder"]
    nodes := [
      trigger 20,
      condition "cond_terminal_pattern" "terminal-pattern" "Padrão de Terminais"
        [("janela", .int 20), ("padrao", .str "any"), ("minStrength", .int 1),
          ("includeNeighbors", .bool true), ("neighborRadius", .int 2), ("includeZero",
            .bool true)],
      signal "signal_terminais" "Sinal Puxador de Terminais"
        "Padrão de terminais detectado em sequência recente."]
    connections := [
      ("trigger_1", "cond_terminal_pattern", .success),
      ("cond_terminal_pattern", "signal_terminais", .success)] },
  { name := "Terminais Refinados SOFIA"
    slug := "sofia-terminais-refinados-v1"
    description :=
      "Detecta padrões no último dígito (terminal) e sugere números do terminal com vizinhos."
    category := "terminal-pattern"
    tags := ["terminais", "vizinhos", "builder"]
    nodes := [
      trigger 6,
      condition "cond_terminal_pattern" "terminal-pattern" "Padrão de Terminais"
        [("janela", .int 6), ("padrao", .str "any"), ("minStrength", .int 1), ("includeNeighbors",
          .bool true), ("neighborRadius", .int 2), ("includeZero", .bool true)],
      signal "signal_terminais_refinados" "Gerar Sinal Terminais Refinados"
        "Padrão de terminais detectado; sugerindo números do terminal e vizinhos (inclui 0)."]
    connections := [
      ("trigger_1", "cond_terminal_pattern", .success),
      ("cond_terminal_pattern", "signal_terminais_refinados", .success)] },
  { name := "Números Puxam SOFIA"
    slug := "sofia-numeros-puxam-v1"
    description := "Explora relações de puxada entre números."
    category := "numbers_pull"
    tags := ["numeros", "puxam", "sequencia", "builder"]
    nodes := [
      trigger 25,
      condition "cond_sequence" "sequence_custom" "Sequência de Puxada"
        [("sequencia", .ofInts [7, 17, 27]), ("tolerancia", .int 1)],
      condition "cond_neighbors" "neighbors" "Vizinhos do Último Número"
        [("numero", .int 0), ("raio", .int 2), ("includeZero", .bool true)],
      logic "logic_and" .and "Puxada Ativa",
      signal "signal_puxam" "Sinal Números Puxam"
        "Padrão de puxada entre números detectado."]
    connections := [
      ("trigger_1", "cond_sequence", .success),
      ("trigger_1", "cond_neighbors", .success),
      ("cond_sequence", "logic_and", .condition),
      ("cond_neighbors", "logic_and", .condition),
      ("logic_and", "signal_puxam", .success)] },
  { name := "Ondas SOFIA"
    slug := "sofia-ondas-v1"
    description := "Captura ondas de padrão combinando tendência de cor com alternância."
    category := "waves_pattern"
    tags := ["ondas", "tendência", "alternância", "builder"]
    nodes := [
      trigger 30,
      condition "cond_trend_color" "trend" "Tendência de Cor"
        [("evento", .str "vermelho"), ("janela", .int 10), ("frequenciaMinima",
          .float (Binary64.ofRatio false 7 10))],
      condition "cond_alternation" "alternation" "Alternância de Cor"
        [("eixo", .str "cor"), ("comprimento", .int 4)],
      logic "logic_and" .and "Onda Ativa",
      signal "signal_ondas" "Sinal Ondas SOFIA"
        "Onda de padrão (tendência + alternância) detectada."]
    connections := [
      ("trigger_1", "cond_trend_color", .success),
      ("trigger_1", "cond_alternation", .success),
      ("cond_trend_color", "logic_and", .condition),
      ("cond_alternation", "logic_and", .condition),
      ("logic_and", "signal_ondas", .success)] },
  { name := "Os Opostos SOFIA"
    slug := "sofia-os-opostos-v1"
    description := "Sugere o número oposto (espelho) ao último giro."
    category := "opposites"
    tags := ["opostos", "espelho", "builder"]
    nodes := [
      trigger 10,
      condition "cond_oposto" "mirror" "Oposto do Último Número"
        [("raio", .int 0), ("includeZero", .bool false)],
      signal "signal_opostos" "Sinal Os Opostos"
        "Oposto do último número derivado."]
    connections := [
      ("trigger_1", "cond_oposto", .success),
      ("cond_oposto", "signal_opostos", .success)] },
  { name := "Cavalo/Linha SOFIA"
    slug := "sofia-cavalo-linha-v1"
    description := "Ativa quando dois giros consecutivos caem em casas vizinhas da roda."
    category := "wheel_adjacent"
    tags := ["cavalo", "linha", "roda", "builder"]
    nodes := [
      trigger 12,
      condition "cond_adj_wheel" "adjacent-in-list" "Adjacente na Roda (EU)"
        [("janela", .int 12), ("list", .ofInts Wheel.order), ("circular", .bool true),
          ("outputNumbers", .ofInts [])],
      signal "signal_cavalo" "Sinal Cavalo/Linha"
        "Giros vizinhos na roda detectados."]
    connections := [
      ("trigger_1", "cond_adj_wheel", .success),
      ("cond_adj_wheel", "signal_cavalo", .success)] },
  { name := "Sequência de Números SOFIA"
    slug := "sofia-sequencia-numeros-v1"
    description := "Ativa quando dois giros consecutivos são números vizinhos na ordem numérica."
    category := "numeric_adjacent"
    tags := ["sequencia", "numeros", "builder"]
    nodes := [
      trigger 12,
      condition "cond_adj_numeric" "adjacent-in-list" "Adjacente Numérico (0–36)"
        [("janela", .int 12), ("list", .ofInts Wheel.pockets), ("circular", .bool false),
          ("outputNumbers", .ofInts [])],
      signal "signal_sequencia" "Sinal Sequência de Números"
        "Números consecutivos detectados."]
    connections := [
      ("trigger_1", "cond_adj_numeric", .success),
      ("cond_adj_numeric", "signal_sequencia", .success)] }]

def find? (slug : String) : Option Template := templates.find? (·.slug == slug)

end RouletteStrategy.Catalog
